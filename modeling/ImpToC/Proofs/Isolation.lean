import ImpToC.Proofs.Congruence

/-! Calls are isolated from each other. Evaluating an expression leaves every call in progress
as it was, however many calls it makes on its way and wherever one of them fails: what is
entered is left again, and what is assigned or recorded in between belongs to a call that is
over. Executing a statement may give the parameters of the innermost call other values and
record a result there, and does nothing else to the calls in progress. -/
namespace ImpToC

open Exec

variable {σ α β : Type}

namespace Frame

def names (frame : Frame) : List String := frame.params.map Prod.fst

@[simp] theorem assign_names (name : String) (value : Int64) (params : List (String × Int64)) :
    (assign name value params).map Prod.fst = params.map Prod.fst := by
  induction params with
  | nil => rfl
  | cons param params ih =>
    obtain ⟨first, old⟩ := param
    rw [assign]
    split
    · rfl
    · rw [List.map_cons, List.map_cons, ih]

theorem lookup_isSome_iff (frame : Frame) (name : String) :
    (frame.params.lookup name).isSome ↔ name ∈ frame.names := by
  rw [List.lookup_isSome_iff, names, List.mem_map]
  exact exists_congr fun param => and_congr_right fun _ => beq_iff_eq.trans eq_comm

end Frame

namespace Machine

def paramNames (machine : Machine σ) : List String :=
  match machine.frames with
  | [] => []
  | frame :: _ => frame.names

theorem store_of_not_param {machine : Machine σ} {name : String} (value : Int64)
    (free : name ∉ machine.paramNames) :
    machine.store name value = { machine with globals := machine.globals.insert name value } := by
  obtain ⟨globals, frames, stepsLeft, sink⟩ := machine
  cases frames with
  | nil => rfl
  | cons frame frames =>
    have missing : ¬(frame.params.lookup name).isSome := fun found =>
      free ((frame.lookup_isSome_iff name).1 found)
    simp only [store, if_neg missing]

theorem store_of_param {machine : Machine σ} {name : String} (value : Int64)
    (bound : name ∈ machine.paramNames) :
    ∃ frame frames, machine.frames = frame :: frames ∧
      machine.store name value =
        { machine with
          frames := { frame with params := Frame.assign name value frame.params } :: frames } := by
  obtain ⟨globals, frames, stepsLeft, sink⟩ := machine
  cases frames with
  | nil => cases bound
  | cons frame frames =>
    have found : (frame.params.lookup name).isSome := (frame.lookup_isSome_iff name).2 bound
    refine ⟨frame, frames, rfl, ?_⟩
    simp only [store, if_pos found]

end Machine

/-- What an execution may make of the calls in progress: there are as many as before, those
below the innermost one are untouched, and the innermost one has the same parameters. -/
structure SameCallers (before after : List Frame) : Prop where
  length : after.length = before.length
  callers : after.tail = before.tail
  names : after.head?.map Frame.names = before.head?.map Frame.names

namespace SameCallers

variable {first second third : List Frame}

theorem refl (frames : List Frame) : SameCallers frames frames := ⟨rfl, rfl, rfl⟩

theorem of_eq (same : second = first) : SameCallers first second := by
  subst same
  exact refl second

theorem trans (start : SameCallers first second) (rest : SameCallers second third) :
    SameCallers first third where
  length := rest.length.trans start.length
  callers := rest.callers.trans start.callers
  names := rest.names.trans start.names

theorem store (name : String) (value : Int64) (machine : Machine σ) :
    SameCallers machine.frames (machine.store name value).frames := by
  by_cases bound : name ∈ machine.paramNames
  · obtain ⟨frame, frames, top, stored⟩ := Machine.store_of_param value bound
    rw [stored, top]
    refine ⟨rfl, rfl, ?_⟩
    simp [Frame.names]
  · rw [Machine.store_of_not_param value bound]
    exact refl _

theorem record (value : Int64) (machine : Machine σ) :
    SameCallers machine.frames (machine.record value).frames := by
  obtain ⟨globals, frames, stepsLeft, sink⟩ := machine
  cases frames with
  | nil => exact refl _
  | cons frame frames => exact ⟨rfl, rfl, rfl⟩

end SameCallers

namespace Exec

def KeepsFrames (run : Exec σ α) : Prop :=
  ∀ machine, (finalMachine (run machine)).frames = machine.frames

/-- Leaves the calls in progress as an execution may, whether it succeeds or fails. -/
def KeepsCallers (run : Exec σ α) : Prop :=
  ∀ machine, SameCallers machine.frames (finalMachine (run machine)).frames

theorem KeepsFrames.keepsCallers {run : Exec σ α} (keeps : KeepsFrames run) : KeepsCallers run :=
  fun machine => .of_eq (keeps machine)

theorem KeepsFrames.bind {first : Exec σ α} {next : α → Exec σ β} (start : KeepsFrames first)
    (rest : ∀ a, KeepsFrames (next a)) : KeepsFrames (first >>= next) := by
  intro machine
  have kept := start machine
  rw [bind_apply]
  cases done : first machine with
  | ok a middle =>
    rw [done] at kept
    exact (rest a middle).trans kept
  | error fault middle =>
    rw [done] at kept
    exact kept

theorem KeepsCallers.bind {first : Exec σ α} {next : α → Exec σ β} (start : KeepsCallers first)
    (rest : ∀ a, KeepsCallers (next a)) : KeepsCallers (first >>= next) := by
  intro machine
  have kept := start machine
  rw [bind_apply]
  cases done : first machine with
  | ok a middle =>
    rw [done] at kept
    exact kept.trans (rest a middle)
  | error fault middle =>
    rw [done] at kept
    exact kept

theorem keepsFrames_operate (op : Operator) (a b : Int64) :
    KeepsFrames (operate op a b : Exec σ Int64) := by
  intro machine
  rw [operate]
  cases op.result? a b <;> rfl

theorem keepsFrames_put [Sink σ] (value : Int64) : KeepsFrames (put value : Exec σ Unit) := by
  rintro ⟨globals, frames, stepsLeft, sink⟩
  rw [put]
  cases Sink.put value sink with
  | mk after reason? => cases reason? <;> rfl

theorem keepsFrames_step (limits : Limits) : KeepsFrames (step limits : Exec σ Unit) := by
  rintro ⟨globals, frames, stepsLeft, sink⟩
  cases stepsLeft <;> rfl

theorem KeepsCallers.within {body : Exec σ Unit} (frame : Frame) (keeps : KeepsCallers body) :
    KeepsFrames (within frame body) := by
  intro machine
  have callers : (finalMachine (body (machine.enter frame))).frames.tail = machine.frames :=
    (keeps (machine.enter frame)).callers
  rw [Exec.within]
  cases done : body (machine.enter frame) <;> rw [done] at callers <;> exact callers

theorem KeepsCallers.call {env : Env} {run : Stmt → Exec σ Unit} (callee : String)
    (args : List Int64) (bodies : ∀ stmt, KeepsCallers (run stmt)) :
    KeepsFrames (call env run callee args) := by
  intro machine
  rw [Exec.call]
  cases env.table.resolve callee args.length with
  | error fault => rfl
  | ok declaration =>
    dsimp only
    split
    · exact (bodies declaration.body).within _ machine
    · rfl

end Exec

def isolation (σ : Type) [Sink σ] (env : Env) : Congruence σ σ env env where
  Eval run _ := KeepsFrames run
  Run run _ := KeepsCallers run
  pure _ := fun _ => rfl
  bind start rest := start.bind rest
  load _ := fun _ => rfl
  operate := keepsFrames_operate
  call callee args bodies := KeepsCallers.call callee args bodies
  skip := fun _ => .refl _
  stop := fun _ => .refl _
  store name value := fun machine => .store name value machine
  record value := fun machine => .record value machine
  put value := (keepsFrames_put value).keepsCallers
  step rest := (keepsFrames_step env.limits).keepsCallers.bind fun _ => rest
  after start rest := start.keepsCallers.bind rest
  seq start rest := start.bind fun _ => rest

/-- Calls are isolated. Whatever the program, the limits and the state of the machine: evaluating
an expression leaves the calls in progress as they were, their number, their parameters and their
results, whether it gives a value or fails; executing a statement leaves as many calls, the
callers untouched and the innermost call with its parameters. A store to a name that is not a
parameter of the innermost call changes no call, and a store to a parameter no global variable. -/
theorem Machine.calls_isolated [Sink σ] (env : Env) (bound : Nat) (machine : Machine σ) :
    (∀ expr : Expr,
      (finalMachine (expr.eval (callAt env bound) machine)).frames = machine.frames) ∧
    (∀ stmt : Stmt,
      SameCallers machine.frames (finalMachine (stmt.exec env bound machine)).frames) ∧
    ∀ name value,
      (name ∉ machine.paramNames → (machine.store name value).frames = machine.frames) ∧
      (name ∈ machine.paramNames → (machine.store name value).globals = machine.globals) := by
  refine ⟨fun expr => ?_, fun stmt => ?_, fun name value => ⟨fun free => ?_, fun param => ?_⟩⟩
  · exact (isolation σ env).eval bound expr machine
  · exact (isolation σ env).exec bound stmt machine
  · rw [store_of_not_param value free]
  · obtain ⟨frame, frames, -, stored⟩ := store_of_param value param
    rw [stored]

/-- Inside a call with the parameter `x`, a call of `g` calls `f` in turn, which divides by 0 on
the way to an assignment to its own `x`. The failure passes through both calls, and the call in
which it all started is as it was. -/
theorem Machine.calls_isolated_failure :
    let dividing : Declaration Stmt :=
      ⟨"f", ["x"], .assign "x" (.binary (.arith .div) (.var "x") (.num "0"))⟩
    let calling : Declaration Stmt :=
      ⟨"g", ["x"], .print (.binary (.arith .add) (.call "f" [.var "x"]) (.num "1"))⟩
    let table := (Table.empty.push dividing rfl).push calling rfl
    let expr : Expr := .call "g" [.num "3"]
    let machine : Machine (Array Int64) :=
      { frames := [{ params := [("x", 5)], result := 7 }], stepsLeft := 9, sink := #[] }
    let answer := expr.eval (callAt ⟨table, {}⟩ 9) machine
    (∃ after, answer = .error .divisionByZero after ∧ after.frames = machine.frames) ∧
      "y" ∉ machine.paramNames ∧ (machine.store "y" 1).frames = machine.frames ∧
      "x" ∈ machine.paramNames ∧ (machine.store "x" 1).globals = machine.globals := by
  intro dividing calling table expr machine answer
  obtain ⟨evals, -, stores⟩ := calls_isolated ⟨table, {}⟩ 9 machine
  have failed : ∃ after, answer = .error .divisionByZero after := ⟨_, rfl⟩
  have free : "y" ∉ machine.paramNames := by decide
  have param : "x" ∈ machine.paramNames := by decide
  obtain ⟨after, failed⟩ := failed
  have kept : (finalMachine answer).frames = machine.frames := evals expr
  rw [failed] at kept
  exact ⟨⟨after, failed, kept⟩, free, (stores "y" 1).1 free, param, (stores "x" 1).2 param⟩

end ImpToC
