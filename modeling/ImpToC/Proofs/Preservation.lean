import ImpToC.Proofs.Hygiene
import ImpToC.Proofs.Lowering

/-! Lowering preserves what a program does. Calls match at every depth, by induction on
the rounds; so the main function of the file does what the walk of the program does, and
the walk is what the program does under limits that are large enough. -/
namespace ImpToC

open C (Value State Stop Flow)
open Exec (callWithin)

namespace Lower

variable {linked : Linked}

theorem mirrors_enter (machine : Machine Writer) (params : List String) (args : List Int64) :
    Mirrors (some machine.frames) (machine.enter { params := params.zip args }).frames
      ((resultName, .longLong 0) :: (params.map variableName).zip (args.map .longLong)) := by
  refine ⟨_, rfl, fun name => ?_, List.lookup_cons_self⟩
  have differ : (variableName name == resultName) = false :=
    beq_false_of_ne (resultName_ne_variableName name).symm
  rw [List.lookup_cons, differ]
  exact lookup_params params args name

theorem ret_result {calls : C.Calls} {rounds : Nat} {callers : List Frame}
    {machine : Machine Writer} {state : State}
    (mirrors : Mirrors (some callers) machine.frames state.locals) :
    C.Stmt.execAll calls rounds [.ret (.ident resultName)] state =
      .ok (.returned (.longLong machine.result)) state := by
  obtain ⟨frame, top, -, result⟩ := mirrors
  have read : (C.Expr.ident resultName).value? state = some (.longLong machine.result) := by
    simp only [C.Expr.value?, State.read?, constant?_resultName, result, Machine.result, top]
  rw [C.Stmt.execAll_singleton]
  exact C.Stmt.exec_ret (C.Expr.result_of_value? read)

theorem body_simulates {rounds : Nat} (callsMatch : CallsMatch linked rounds)
    {declaration : Declaration Stmt}
    (covers : Covers linked declaration.body.isValid declaration.body.calls declaration.body.vars)
    (args : List Int64) {machine : Machine Writer} {state : State}
    (shares : Shares linked.program.vars machine state) :
    Simulates
      (fun _ after flow later => flow = .returned (.longLong after.result) ∧
        Shares linked.program.vars after later ∧ after.frames.tail = machine.frames)
      (declaration.body.walk (callWithin linked.table rounds) rounds
        (machine.enter { params := declaration.params.zip args }))
      (C.Stmt.execAll (linked.lower.call rounds) rounds declaration.lower.body
        { state with locals := declaration.lower.params.zip (args.map .longLong) }) := by
  rcases bodyLowered : declaration.body.lower true 0 with ⟨code, high⟩
  have lowered : declaration.body.lower (some machine.frames).isSome 0 = (code, high) := bodyLowered
  have mirrors := mirrors_enter machine declaration.params args
  have declared : (C.Stmt.declare .longLong resultName (.int 0)).exec (linked.lower.call rounds)
      rounds { state with locals := declaration.lower.params.zip (args.map .longLong) } = _ :=
    C.Stmt.exec_declare (C.Expr.result_of_value? rfl) rfl
  simp only [Declaration.lower, bodyLowered] at declared ⊢
  rw [List.append_assoc, List.singleton_append, C.Stmt.execAll_cons_of_next declared]
  have entered : Shares linked.program.vars
      (machine.enter { params := declaration.params.zip args })
      { state with locals := (resultName, .longLong 0) ::
          (declaration.params.map variableName).zip (args.map .longLong) } :=
    ⟨shares.globals, shares.sink⟩
  refine (Stmt.lower_simulates callsMatch declaration.body covers lowered entered
    mirrors).run_append ?_
  rintro ⟨⟩ after flow later ⟨rfl, executes⟩
  rw [ret_result executes.mirrors]
  obtain ⟨frame, top, -⟩ := executes.mirrors
  exact ⟨rfl, rfl, executes.shares, by rw [top]; rfl⟩

theorem callsMatch (sound : linked.Sound) (rounds : Nat) : CallsMatch linked rounds := by
  induction rounds with
  | zero =>
    intro callee args machine state known shares
    obtain ⟨declaration, resolved⟩ := sound.resolved _ known
    obtain ⟨got, -⟩ := Table.resolve_eq_ok resolved
    have found := find?_lower linked callee
    rw [got] at found
    simp only [callWithin, C.File.call, found]
    exact ⟨.exhausted, shares.sink⟩
  | succ rounds ih =>
    intro callee args machine state known shares
    obtain ⟨declaration, resolved⟩ := sound.resolved _ known
    obtain ⟨got, count⟩ := Table.resolve_eq_ok resolved
    obtain ⟨member, -⟩ := Table.get?_eq_some got
    have covers : Covers linked declaration.body.isValid declaration.body.calls
        declaration.body.vars :=
      ⟨(sound.valid_of_declared member).body, sound.calls_of_declared member,
        sound.vars_of_declared member⟩
    have found := find?_lower linked callee
    rw [got] at found
    have bound : declaration.lower.bind? (args.map .longLong) = _ :=
      C.Function.bind?_longLong (by rw [Declaration.lower, List.length_map, count])
    have simulates := body_simulates ih covers args shares
    simp only [callWithin, C.File.call, found, Option.map_some, Exec.enterCall, resolved,
      Exec.within]
    cases walked : declaration.body.walk (callWithin linked.table rounds) rounds
        (machine.enter { params := declaration.params.zip args }) with
    | ok value after =>
      rw [walked] at simulates
      cases ran : C.Stmt.execAll (linked.lower.call rounds) rounds declaration.lower.body
          { state with locals := declaration.lower.params.zip (args.map .longLong) } with
      | error stop later =>
        rw [ran] at simulates
        exact simulates.elim
      | ok flow later =>
        rw [ran] at simulates
        obtain ⟨rfl, afterShares, tail⟩ := simulates
        have called := C.Function.call_of_returned bound ran
          (Value.convert?_longLong after.result)
        rw [called]
        exact ⟨_, rfl, Value.convert?_longLong _, ⟨afterShares.globals, afterShares.sink⟩, tail,
          rfl⟩
    | error fault after =>
      rw [walked] at simulates
      cases ran : C.Stmt.execAll (linked.lower.call rounds) rounds declaration.lower.body
          { state with locals := declaration.lower.params.zip (args.map .longLong) } with
      | ok flow later =>
        rw [ran] at simulates
        exact simulates.elim
      | error stop later =>
        rw [ran] at simulates
        rw [C.Function.call_of_error bound ran]
        exact simulates

theorem lowerAll_simulates {rounds : Nat} (callsMatch : CallsMatch linked rounds)
    (stmts : List Stmt)
    (covers : ∀ stmt ∈ stmts, Covers linked stmt.isValid stmt.calls stmt.vars) {next : Nat}
    {machine : Machine Writer} {state : State} (shares : Shares linked.program.vars machine state)
    (mirrors : Mirrors none machine.frames state.locals) :
    Simulates
      (fun _ after flow later => flow = .next ∧ Shares linked.program.vars after later)
      (Stmt.walkAll (callWithin linked.table rounds) rounds stmts machine)
      (C.Stmt.execAll (linked.lower.call rounds) rounds (Stmt.lowerAll false stmts next).1
        state) := by
  induction stmts generalizing next machine state with
  | nil => exact ⟨rfl, shares⟩
  | cons stmt stmts ih =>
    have here := covers stmt (List.mem_cons_self ..)
    rcases lowered : stmt.lower (none : Option (List Frame)).isSome next with ⟨code, high⟩
    have split : (Stmt.lowerAll false (stmt :: stmts) next).1 =
        code ++ (Stmt.lowerAll false stmts high).1 := by
      rw [Option.isSome_none] at lowered
      simp only [Stmt.lowerAll, lowered]
    rw [split, Stmt.walkAll]
    refine (Stmt.lower_simulates callsMatch stmt here lowered shares mirrors).append ?_
    rintro ⟨⟩ after flow later ⟨rfl, executes⟩
    exact ⟨rfl, ih (fun other member => covers other (List.mem_cons_of_mem _ member))
      executes.shares executes.mirrors⟩

theorem lookup_start {names : List String} {name : String} (member : name ∈ names)
    (value : Value) :
    ((names.map variableName).map fun global => (global, value)).lookup (variableName name) =
      some value := by
  induction names with
  | nil => cases member
  | cons first names ih =>
    simp only [List.map_cons, List.lookup_cons]
    cases same : variableName name == variableName first with
    | true => rfl
    | false =>
      have differ : name ≠ first := fun equal => by simp [equal] at same
      exact ih (List.mem_of_ne_of_mem differ member)

theorem shares_start (linked : Linked) :
    Shares linked.program.vars ({ stepsLeft := 0, sink := {} } : Machine Writer)
      linked.lower.start := by
  refine ⟨fun name known => ?_, rfl⟩
  have member : name ∈ linked.program.globals := by
    rw [Program.globals, List.mem_mergeSort, List.mem_eraseDups]
    exact known
  rw [Std.HashMap.getD_empty]
  exact lookup_start member _

theorem main_simulates (sound : linked.Sound) (rounds : Nat) :
    Simulates
      (fun _ after flow later => flow = .returned (.int 0) ∧ after.sink = { kept := later.out })
      (Stmt.walkAll (callWithin linked.table rounds) rounds linked.program.statements
        ({ stepsLeft := 0, sink := {} } : Machine Writer))
      (C.Stmt.execAll (linked.lower.call rounds) rounds linked.lower.main.body
        linked.lower.start) := by
  have covers : ∀ stmt ∈ linked.program.statements,
      Covers linked stmt.isValid stmt.calls stmt.vars := fun stmt member =>
    ⟨List.all_eq_true.1 sound.valid stmt member,
      fun _ here => List.mem_flatMap.2 ⟨stmt, member, here⟩,
      fun _ here => List.mem_flatMap.2 ⟨stmt, member, here⟩⟩
  refine (lowerAll_simulates (callsMatch sound rounds) _ covers (shares_start linked)
    ⟨rfl, fun _ => rfl⟩).run_append ?_
  rintro ⟨⟩ after flow later ⟨rfl, shares⟩
  refine ⟨rfl, ?_⟩
  rw [C.Stmt.execAll_singleton, C.Stmt.exec_ret (C.Expr.result_of_value? rfl)]
  exact ⟨rfl, shares.sink⟩

inductive Reports : Except RunError Unit × Writer → C.File.Outcome → Prop where
  | done (text : String) : Reports (.ok (), { kept := text }) (.finished 0 text)
  | divided (text : String) :
    Reports (.error .divisionByZero, { kept := text })
      (.finished C.Prelude.divisionByZeroStatus text)
  | exhausted (text : String) : Reports (.error Exec.exhausted, { kept := text }) .exhausted

theorem run_lower (sound : linked.Sound) (rounds : Nat) :
    Reports (linked.walk rounds {}) (linked.lower.run rounds) := by
  have simulates := main_simulates sound rounds
  have bound : linked.lower.main.bind? [] = some [] := rfl
  have library : linked.lower.includesLibrary = true := rfl
  rw [C.File.run, if_pos library, Linked.walk]
  cases walked : Stmt.walkAll (callWithin linked.table rounds) rounds linked.program.statements
      ({ stepsLeft := 0, sink := {} } : Machine Writer) with
  | ok value after =>
    rw [walked] at simulates
    cases ran : C.Stmt.execAll (linked.lower.call rounds) rounds linked.lower.main.body
        linked.lower.start with
    | error stop later =>
      rw [ran] at simulates
      exact simulates.elim
    | ok flow later =>
      rw [ran] at simulates
      obtain ⟨rfl, sink⟩ := simulates
      have called : linked.lower.main.call (C.Stmt.execAll (linked.lower.call rounds) rounds) []
          linked.lower.start = .ok (some (.int 0)) { later with locals := [] } :=
        C.Function.call_of_returned bound ran rfl
      simp only [called, sink]
      exact .done later.out
  | error fault after =>
    rw [walked] at simulates
    cases ran : C.Stmt.execAll (linked.lower.call rounds) rounds linked.lower.main.body
        linked.lower.start with
    | ok flow later =>
      rw [ran] at simulates
      exact simulates.elim
    | error stop later =>
      rw [ran] at simulates
      obtain ⟨ends, sink⟩ := simulates
      have called : linked.lower.main.call (C.Stmt.execAll (linked.lower.call rounds) rounds) []
          linked.lower.start = .error stop later := C.Function.call_of_error bound ran
      simp only [called, sink]
      cases ends with
      | division => exact .divided later.out
      | exhausted => exact .exhausted later.out

theorem run_ne_undefined (sound : linked.Sound) (rounds : Nat) :
    linked.lower.run rounds ≠ .undefined := by
  have reports := run_lower sound rounds
  generalize linked.walk rounds ({} : Writer) = walked at reports
  generalize linked.lower.run rounds = ran at reports
  cases reports <;> exact nofun

theorem terminates_zero_iff (sound : linked.Sound) (output : String) :
    linked.lower.Terminates output 0 ↔
      ∃ limits, linked.run limits {} = (.ok (), ({ kept := output } : Writer)) := by
  rw [Linked.run_iff_walk linked ({} : Writer) _ (.ok ()) nofun]
  refine exists_congr fun rounds => ?_
  have reports := run_lower sound rounds
  generalize linked.walk rounds ({} : Writer) = walked at reports
  generalize linked.lower.run rounds = ran at reports
  cases reports <;> simp [C.Prelude.divisionByZeroStatus]

theorem terminates_divided_iff (sound : linked.Sound) (output : String) :
    linked.lower.Terminates output C.Prelude.divisionByZeroStatus ↔
      ∃ limits, linked.run limits {} = (.error .divisionByZero, ({ kept := output } : Writer)) := by
  rw [Linked.run_iff_walk linked ({} : Writer) _ (.error .divisionByZero) (by rintro fault ⟨⟩; rfl)]
  refine exists_congr fun rounds => ?_
  have reports := run_lower sound rounds
  generalize linked.walk rounds ({} : Writer) = walked at reports
  generalize linked.lower.run rounds = ran at reports
  cases reports <;> simp [C.Prelude.divisionByZeroStatus, Exec.exhausted]

end Lower

theorem Tree.write_eq_iff {tree : Tree} {linked : Linked} (link : Linked.ofTree tree = .ok linked)
    (limits : Limits) (output : String) :
    (tree.write limits {} = (.ok (), { kept := output, flushes := 1 }) ↔
        linked.run limits {} = (.ok (), ({ kept := output } : Writer))) ∧
      (tree.write limits {} = (.error .divisionByZero, { kept := output }) ↔
        linked.run limits {} = (.error .divisionByZero, ({ kept := output } : Writer))) := by
  simp only [Tree.write, Tree.run, link]
  rcases linked.run limits ({} : Writer) with ⟨_ | ⟨⟩, kept, room?, whenFull, flushFault?, flushes⟩
  · simp
  · cases flushFault? <;> simp [Writer.flush]

/-- The text generated for a tree is read as a C file which does what the tree does. It
never runs into anything C leaves open. It ends with status 0 exactly if the tree runs to
its end under some limits, and with the status of a division by zero exactly if the tree
divides by zero under some limits, each time having written the same. -/
theorem Tree.generate_preserves {tree : Tree} {text : String}
    (generated : tree.generate = .ok text) :
    ∃ file, C.File.ofText? text = some file ∧ tree.lower = .ok file ∧ file.render = text ∧
      (∀ rounds, file.run rounds ≠ .undefined) ∧
      ∀ output,
        (file.Terminates output 0 ↔
          ∃ limits, tree.write limits {} = (.ok (), { kept := output, flushes := 1 })) ∧
        (file.Terminates output C.Prelude.divisionByZeroStatus ↔
          ∃ limits, tree.write limits {} = (.error .divisionByZero, { kept := output })) := by
  obtain ⟨linked, link, lowered, rfl⟩ := Tree.generate_eq_ok generated
  obtain ⟨-, sound⟩ := Linked.ofTree_eq_ok link
  refine ⟨linked.lower, sound.legible.ofText?_render, lowered, rfl, Lower.run_ne_undefined sound,
    fun output => ⟨?_, ?_⟩⟩
  · rw [Lower.terminates_zero_iff sound]
    exact exists_congr fun limits => (Tree.write_eq_iff link limits output).1.symm
  · rw [Lower.terminates_divided_iff sound]
    exact exists_congr fun limits => (Tree.write_eq_iff link limits output).2.symm

/-- A program that prints 7 and then divides 1 by 0. -/
theorem Tree.generate_preserves_division :
    ∃ text file, Tree.generate (Program.toTree ⟨[.print (.num "7"),
        .print (.binary (.arith .div) (.num "1") (.num "0"))]⟩) = .ok text ∧
      C.File.ofText? text = some file ∧ file.Terminates "7\n" 2 := by
  have generated : Tree.generate (Program.toTree ⟨[.print (.num "7"),
      .print (.binary (.arith .div) (.num "1") (.num "0"))]⟩) = .ok _ := rfl
  obtain ⟨file, read, -, -, -, ends⟩ := Tree.generate_preserves generated
  exact ⟨_, file, generated, read, (ends "7\n").2.2 ⟨{ steps := 2 }, rfl⟩⟩

end ImpToC
