import Mathlib.Data.List.Sort
import ImpToC.Proofs.Congruence
import ImpToC.Proofs.Hygiene
import ImpToC.Proofs.Shape

/-! The place of a declaration does not matter. A program may be rearranged, as long as the
statements that are no declarations stay in their order: it then runs to its end exactly if it
did before, printing the same values, and its code is the same but for the order of the
functions.

The declarations of the rearranged program are listed in another order, and what refers to one
of them finds the same one, since their names differ. A declaration that is executed takes a step
and does nothing else. Other statements begin with more or fewer steps left than before, and
where they succeed they only pass the difference on. -/
namespace ImpToC

open Exec

variable {σ α β : Type}

/-- The children of the second tree are those of the first in another order, in which all but
the declarations follow each other as before. -/
structure Tree.Rearranges (tree moved : Tree) : Prop where
  kind : moved.kind = tree.kind
  value : moved.value? = tree.value?
  perm : moved.children.Perm tree.children
  others : moved.children.filter (·.kind != .function) =
    tree.children.filter (·.kind != .function)

def Stmt.isFunction : Stmt → Bool
  | function _ _ _ => true
  | _ => false

def Stmt.others (stmts : List Stmt) : List Stmt := stmts.filter (!·.isFunction)

structure Program.Rearranges (program moved : Program) : Prop where
  perm : moved.statements.Perm program.statements
  others : Stmt.others moved.statements = Stmt.others program.statements

theorem Tree.Rearranges.symm {tree moved : Tree} (moves : tree.Rearranges moved) :
    moved.Rearranges tree :=
  ⟨moves.kind.symm, moves.value.symm, moves.perm.symm, moves.others.symm⟩

theorem Stmt.kind_toTree_ne_function (stmt : Stmt) :
    (stmt.toTree.kind != .function) = !stmt.isFunction := by
  cases stmt <;> rfl

def Tree.stmt (tree : Tree) : Stmt := (Stmt.ofTree .program 0 tree).toOption.getD default

theorem Stmt.stmt_toTree {stmt : Stmt} (spelled : stmt.WellSpelled) : stmt.toTree.stmt = stmt := by
  have clean : stmt.toTree.leaves.findSome? Tree.misspelling? = none := stmt.spelled_iff.2 spelled
  rw [Tree.stmt, Stmt.ofTree_toTree, Tree.verdict, clean]
  rfl

theorem Stmt.map_stmt_toTree {stmts : List Stmt} (spelled : ∀ stmt ∈ stmts, stmt.WellSpelled) :
    (stmts.map toTree).map Tree.stmt = stmts := by
  rw [List.map_map]
  exact (List.map_congr_left fun stmt mem => stmt_toTree (spelled stmt mem)).trans stmts.map_id

theorem Stmt.filter_map_toTree (stmts : List Stmt) :
    (stmts.map toTree).filter (·.kind != .function) = (others stmts).map toTree := by
  rw [List.filter_map, others]
  exact congrArg (fun keep => (stmts.filter keep).map toTree) (funext kind_toTree_ne_function)

theorem Stmt.spelled_others {stmts : List Stmt} (spelled : ∀ stmt ∈ stmts, stmt.WellSpelled) :
    ∀ stmt ∈ others stmts, stmt.WellSpelled :=
  fun stmt mem => spelled stmt (List.mem_of_mem_filter mem)

theorem Tree.Rearranges.ofTree {tree moved : Tree} (moves : tree.Rearranges moved)
    {program : Program} (read : Program.ofTree tree = .ok program) :
    ∃ other, Program.ofTree moved = .ok other ∧ program.Rearranges other := by
  obtain ⟨spelled, rfl⟩ := Program.ofTree_eq_ok_iff.1 read
  have perm : moved.children.Perm (program.statements.map Stmt.toTree) := moves.perm
  let stmts := moved.children.map Tree.stmt
  have stmtsPerm : stmts.Perm program.statements := by
    have mapped := perm.map Tree.stmt
    rwa [Stmt.map_stmt_toTree spelled] at mapped
  have stmtsSpelled : ∀ stmt ∈ stmts, stmt.WellSpelled := fun stmt mem =>
    spelled stmt (stmtsPerm.mem_iff.1 mem)
  have encoded : stmts.map Stmt.toTree = moved.children := by
    rw [List.map_map]
    refine (List.map_congr_left fun child mem => ?_).trans moved.children.map_id
    obtain ⟨stmt, inside, rfl⟩ := List.mem_map.1 (perm.mem_iff.1 mem)
    exact congrArg Stmt.toTree (Stmt.stmt_toTree (spelled stmt inside))
  have whole : Program.toTree ⟨stmts⟩ = moved := by
    obtain ⟨kind, value?, children⟩ := moved
    obtain ⟨rfl⟩ : kind = .program := moves.kind
    obtain ⟨rfl⟩ : value? = none := moves.value
    exact congrArg (Tree.node .program none) encoded
  refine ⟨⟨stmts⟩, Program.ofTree_eq_ok_iff.2 ⟨stmtsSpelled, whole⟩, stmtsPerm, ?_⟩
  have others : (stmts.map Stmt.toTree).filter (·.kind != .function) =
      (program.statements.map Stmt.toTree).filter (·.kind != .function) := by
    rw [encoded]
    exact moves.others
  rw [Stmt.filter_map_toTree, Stmt.filter_map_toTree] at others
  have mapped := congrArg (List.map Tree.stmt) others
  rwa [Stmt.map_stmt_toTree (Stmt.spelled_others stmtsSpelled),
    Stmt.map_stmt_toTree (Stmt.spelled_others spelled)] at mapped

namespace Table

variable {table moved : Table β}

theorem Distinct.perm {declarations others : List (Declaration β)}
    (distinct : Distinct declarations) (perm : others.Perm declarations) : Distinct others where
  names := (perm.map Declaration.name).nodup_iff.2 distinct.names
  params declaration mem := distinct.params declaration (perm.mem_iff.1 mem)

theorem Distinct.get?_perm (distinct : Distinct table.declarations)
    (perm : moved.declarations.Perm table.declarations) (name : String) :
    moved.get? name = table.get? name := by
  refine Option.ext fun declaration => ?_
  rw [(distinct.perm perm).get?_eq_some_iff, distinct.get?_eq_some_iff, perm.mem_iff]

theorem Distinct.resolve_perm (distinct : Distinct table.declarations)
    (perm : moved.declarations.Perm table.declarations) (name : String) (argCount : Nat) :
    moved.resolve name argCount = table.resolve name argCount := by
  rw [resolve, resolve, distinct.get?_perm perm]

end Table

/-- The second linked program is the first one rearranged. -/
structure Linked.Rearranges (linked moved : Linked) : Prop where
  program : linked.program.Rearranges moved.program
  perm : moved.table.declarations.Perm linked.table.declarations
  distinct : Table.Distinct linked.table.declarations

theorem Program.Rearranges.ofProgram {program moved : Program}
    (moves : program.Rearranges moved) (valid : program.isValid) {linked : Linked}
    (link : Linked.ofProgram program = .ok linked) :
    ∃ other, Linked.ofProgram moved = .ok other ∧ linked.Rearranges other := by
  obtain ⟨rfl, sound⟩ := Linked.ofProgram_eq_ok valid link
  have perm : moved.declarations.Perm linked.table.declarations := by
    rw [sound.listed]
    exact moves.perm.flatMap_right Stmt.declarations
  have distinct : Table.Distinct moved.declarations := sound.distinct.perm perm
  obtain ⟨table, built, listed⟩ := Table.ofDeclarations_of_distinct distinct
  rw [← listed] at perm
  have checked : table.checkCalls moved.calls = .ok () := by
    refine Table.checkCalls_of_resolved fun site mem => ?_
    rw [sound.distinct.resolve_perm perm]
    exact sound.resolved site ((moves.perm.flatMap_right Stmt.calls).mem_iff.1 mem)
  refine ⟨⟨moved, table⟩, ?_, moves, perm, sound.distinct⟩
  rw [Linked.ofProgram, built]
  simp only [checked]

theorem Tree.Rearranges.link {tree moved : Tree} (moves : tree.Rearranges moved)
    {linked : Linked} (link : Linked.ofTree tree = .ok linked) :
    ∃ other, Linked.ofTree moved = .ok other ∧ linked.Rearranges other := by
  rw [Linked.ofTree] at link
  split at link
  · cases link
  · rename_i program read
    obtain ⟨other, readOther, rearranged⟩ := moves.ofTree read
    split at link
    · cases link
    · rename_i found link'
      cases link
      obtain ⟨moved, linkOther, linked⟩ :=
        rearranged.ofProgram (Program.ofTree_eq_ok read).2 link'
      exact ⟨moved, by rw [Linked.ofTree, readOther]; simp only [linkOther], linked⟩

def resolvingAlike (σ : Type) [Sink σ] (limits : Limits) {table moved : Table Stmt}
    (alike : ∀ name argCount, table.resolve name argCount = moved.resolve name argCount) :
    Congruence σ σ ⟨table, limits⟩ ⟨moved, limits⟩ where
  Eval run other := run = other
  Run run other := run = other
  pure _ := rfl
  bind start rest := by rw [start, funext rest]
  load _ := rfl
  operate _ _ _ := rfl
  call callee args bodies := by
    funext machine
    rw [Exec.call, Exec.call, funext bodies]
    simp only [alike]
  skip := rfl
  stop := rfl
  store _ _ := rfl
  record _ := rfl
  put _ := rfl
  step rest := by rw [rest]
  after start rest := by rw [start, funext rest]
  seq start rest := by rw [start, rest]

namespace Machine

theorem addSteps_add (machine : Machine σ) (a b : Nat) :
    (machine.addSteps a).addSteps b = machine.addSteps (a + b) := by
  simp only [addSteps, withSteps, Nat.add_assoc]

theorem exists_addSteps_one {machine : Machine σ} (some : 0 < machine.stepsLeft) :
    ∃ before : Machine σ, before.addSteps 1 = machine := by
  obtain ⟨globals, frames, stepsLeft, sink⟩ := machine
  obtain ⟨less, rfl⟩ : ∃ less, stepsLeft = less + 1 := Nat.exists_eq_succ_of_ne_zero some.ne'
  exact ⟨⟨globals, frames, less, sink⟩, rfl⟩

theorem addSteps_inj {a b : Machine σ} (same : a.addSteps 1 = b.addSteps 1) : a = b := by
  obtain ⟨globals, frames, stepsLeft, sink⟩ := a
  obtain ⟨globals', frames', stepsLeft', sink'⟩ := b
  simp only [addSteps, withSteps, mk.injEq, Nat.add_right_cancel_iff] at same
  obtain ⟨rfl, rfl, rfl, rfl⟩ := same
  rfl

end Machine

namespace Exec

theorem bind_eq_ok {first : Exec σ α} {next : α → Exec σ β} {machine after : Machine σ} {b : β} :
    (first >>= next) machine = .ok b after ↔
      ∃ a middle, first machine = .ok a middle ∧ next a middle = .ok b after := by
  constructor
  · intro done
    cases start : first machine with
    | ok a middle =>
      rw [bind_of_ok start] at done
      exact ⟨a, middle, rfl, done⟩
    | error fault middle =>
      rw [bind_of_error start] at done
      cases done
  · rintro ⟨a, middle, start, done⟩
    rw [bind_of_ok start]
    exact done

/-- Where it succeeds, it leaves no more steps than there were, and it succeeds with one more
step in the same way, leaving one more. -/
structure Shifts (run : Exec σ α) : Prop where
  falls {machine after : Machine σ} {a : α} (done : run machine = .ok a after) :
    after.stepsLeft ≤ machine.stepsLeft
  more {machine after : Machine σ} {a : α} (done : run machine = .ok a after) :
    run (machine.addSteps 1) = .ok a (after.addSteps 1)
  fewer {machine after : Machine σ} {a : α}
    (done : run (machine.addSteps 1) = .ok a (after.addSteps 1)) : run machine = .ok a after

theorem Shifts.bind {first : Exec σ α} {next : α → Exec σ β} (start : Shifts first)
    (rest : ∀ a, Shifts (next a)) : Shifts (first >>= next) where
  falls done := by
    obtain ⟨b, middle, begun, ended⟩ := bind_eq_ok.1 done
    exact Nat.le_trans ((rest b).falls ended) (start.falls begun)
  more done := by
    obtain ⟨b, middle, begun, ended⟩ := bind_eq_ok.1 done
    exact bind_eq_ok.2 ⟨b, _, start.more begun, (rest b).more ended⟩
  fewer done := by
    obtain ⟨b, middle, begun, ended⟩ := bind_eq_ok.1 done
    -- there is a step left at the end, so there was one in the middle
    obtain ⟨before, rfl⟩ := Machine.exists_addSteps_one
      (Nat.lt_of_lt_of_le (Nat.succ_pos _) ((rest b).falls ended))
    exact bind_eq_ok.2 ⟨b, before, start.fewer begun, (rest b).fewer ended⟩

theorem shifts_of_blind {run : Exec σ α}
    (blind : ∀ (steps : Nat) (machine : Machine σ),
      run (machine.withSteps steps) = setSteps steps (run machine)) : Shifts run := by
  have more {machine after : Machine σ} {a : α} (done : run machine = .ok a after) :
      run (machine.addSteps 1) = .ok a (after.addSteps 1) := by
    have kept : (finalMachine (run machine)).stepsLeft = machine.stepsLeft :=
      stepsLeft_of_blind fun steps => blind steps machine
    rw [done] at kept
    have kept : after.stepsLeft = machine.stepsLeft := kept
    rw [Machine.addSteps, blind, done, setSteps, Machine.addSteps, kept]
  refine ⟨fun {machine after a} done => ?_, more, fun {machine after a} done => ?_⟩
  · have kept : (finalMachine (run machine)).stepsLeft = machine.stepsLeft :=
      stepsLeft_of_blind fun steps => blind steps machine
    rw [done] at kept
    exact kept.le
  · cases begun : run machine with
    | ok b middle =>
      obtain ⟨rfl, same⟩ := EStateM.Result.ok.inj ((more begun).symm.trans done)
      rw [Machine.addSteps_inj same]
    | error fault middle =>
      rw [Machine.addSteps, blind, begun] at done
      cases done

theorem step_eq_ok {limits : Limits} {machine after : Machine σ} :
    step limits machine = .ok () after ↔ after.addSteps 1 = machine := by
  obtain ⟨globals, frames, stepsLeft, sink⟩ := machine
  cases stepsLeft with
  | zero =>
    constructor
    · intro done
      cases done
    · intro same
      exact absurd (congrArg Machine.stepsLeft same) (Nat.succ_ne_zero _)
  | succ stepsLeft =>
    constructor
    · intro done
      cases done
      rfl
    · intro same
      have same : after.addSteps 1 = Machine.addSteps 1 ⟨globals, frames, stepsLeft, sink⟩ := same
      rw [Machine.addSteps_inj same]
      rfl

theorem shifts_step (limits : Limits) : Shifts (step limits : Exec σ Unit) where
  falls done := by
    rw [← step_eq_ok.1 done]
    exact Nat.le_succ _
  more done := step_eq_ok.2 (congrArg (Machine.addSteps 1) (step_eq_ok.1 done))
  fewer done := step_eq_ok.2 (Machine.addSteps_inj (step_eq_ok.1 done))

theorem shifts_throw (fault : RunError) : Shifts (throw fault : Exec σ α) where
  falls done := nomatch done
  more done := nomatch done
  fewer done := nomatch done

theorem within_eq_ok {frame : Frame} {body : Exec σ Unit} {machine after : Machine σ}
    {value : Int64} :
    within frame body machine = .ok value after ↔
      ∃ final, body (machine.enter frame) = .ok () final ∧ final.result = value ∧
        final.leave = after := by
  rw [within]
  cases ran : body (machine.enter frame) with
  | ok _ final =>
    constructor
    · intro done
      cases done
      exact ⟨final, rfl, rfl, rfl⟩
    · rintro ⟨_, same, rfl, rfl⟩
      cases same
      rfl
  | error fault final =>
    constructor
    · intro done
      cases done
    · rintro ⟨_, same, -⟩
      cases same

theorem Shifts.within {body : Exec σ Unit} (frame : Frame) (shifts : Shifts body) :
    Shifts (within frame body) where
  falls done := by
    obtain ⟨final, ran, -, rfl⟩ := within_eq_ok.1 done
    have fallen := shifts.falls ran
    exact fallen
  more done := by
    obtain ⟨final, ran, rfl, rfl⟩ := within_eq_ok.1 done
    exact within_eq_ok.2 ⟨final.addSteps 1, shifts.more ran, rfl, rfl⟩
  fewer {machine after value} done := by
    obtain ⟨final, ran, rfl, left⟩ := within_eq_ok.1 done
    have some : 0 < final.stepsLeft :=
      Nat.lt_of_lt_of_eq (Nat.succ_pos after.stepsLeft) (congrArg Machine.stepsLeft left).symm
    obtain ⟨before, rfl⟩ := Machine.exists_addSteps_one some
    have left : before.leave.addSteps 1 = after.addSteps 1 := left
    exact within_eq_ok.2 ⟨before, shifts.fewer ran, rfl, Machine.addSteps_inj left⟩

def checkDepth (limits : Limits) : Exec σ Unit := fun machine =>
  if machine.frames.length < limits.callDepth then .ok () machine
  else .error (.callDepthExceeded limits.callDepth) machine

theorem call_eq_bind {env : Env} {callee : String} {args : List Int64}
    {declaration : Declaration Stmt} (run : Stmt → Exec σ Unit)
    (found : env.table.resolve callee args.length = .ok declaration) :
    call env run callee args = checkDepth env.limits >>= fun _ =>
      within { params := declaration.params.zip args } (run declaration.body) := by
  funext machine
  rw [bind_apply, checkDepth]
  by_cases shallow : machine.frames.length < env.limits.callDepth
  · rw [call_of_shallow found shallow, if_pos shallow]
  · rw [call_of_deep found shallow, if_neg shallow]

theorem shifts_checkDepth (limits : Limits) : Shifts (checkDepth limits : Exec σ Unit) :=
  shifts_of_blind fun steps machine => by
    rw [checkDepth, checkDepth, Machine.withSteps_frames]
    split <;> rfl

theorem Shifts.call {env : Env} {run : Stmt → Exec σ Unit} (callee : String) (args : List Int64)
    (bodies : ∀ stmt, Shifts (run stmt)) : Shifts (call env run callee args) := by
  cases found : env.table.resolve callee args.length with
  | error fault =>
    have refused : Exec.call env run callee args = throw (.function fault) :=
      funext fun machine => call_of_unresolved found
    rw [refused]
    exact shifts_throw _
  | ok declaration =>
    rw [call_eq_bind run found]
    exact (shifts_checkDepth env.limits).bind fun _ => (bodies declaration.body).within _

end Exec

def shifting (σ : Type) [Sink σ] (env : Env) : Congruence σ σ env env where
  Eval run _ := Shifts run
  Run run _ := Shifts run
  pure _ := shifts_of_blind fun _ _ => rfl
  bind start rest := start.bind rest
  load _ := shifts_of_blind fun _ _ => rfl
  operate op a b := shifts_of_blind fun steps machine => operate_withSteps steps op a b machine
  call callee args bodies := Shifts.call callee args bodies
  skip := shifts_of_blind fun _ _ => rfl
  stop := shifts_throw _
  store name value := shifts_of_blind fun steps machine =>
    congrArg (EStateM.Result.ok ()) (machine.store_withSteps steps name value)
  record value := shifts_of_blind fun steps machine =>
    congrArg (EStateM.Result.ok ()) (machine.record_withSteps steps value)
  put value := shifts_of_blind fun steps machine => put_withSteps steps value machine
  step rest := (shifts_step env.limits).bind fun _ => rest
  after start rest := start.bind rest
  seq start rest := start.bind fun _ => rest

theorem Stmt.exec_function_eq_ok [Sink σ] {env : Env} {bound : Nat} {stmt : Stmt}
    (isFunction : stmt.isFunction) {machine after : Machine σ} (fits : machine.stepsLeft ≤ bound) :
    stmt.exec env bound machine = .ok () after ↔ after.addSteps 1 = machine := by
  cases stmt with
  | function name params body =>
    cases bound with
    | zero =>
      constructor
      · intro done
        cases done
      · rintro rfl
        exact absurd fits (Nat.not_succ_le_zero _)
    | succ bound =>
      have step : Stmt.exec env (bound + 1) (.function name params body) =
          (step env.limits : Exec σ Unit) := by
        rw [Stmt.exec]
        exact bind_pure _
      rw [step, step_eq_ok]
  | _ => cases isFunction

/-- Declarations take a step each and do nothing else: without them as many more steps are left.
What follows a declaration is executed with one step less than it would be without it. -/
theorem Stmt.execAll_iff_others [Sink σ] (env : Env) {bound : Nat} (stmts : List Stmt)
    {machine after : Machine σ} (fits : machine.stepsLeft ≤ bound) :
    execAll env bound stmts machine = .ok () after ↔
      execAll env bound (others stmts) machine =
        .ok () (after.addSteps (stmts.countP isFunction)) := by
  induction stmts generalizing machine with
  | nil => rfl
  | cons stmt stmts ih =>
    by_cases isFunction : stmt.isFunction
    · have rest : Shifts (execAll env bound (others stmts) : Exec σ Unit) :=
        (shifting σ env).execAll bound (others stmts)
      have skipped : others (stmt :: stmts) = others stmts :=
        List.filter_cons_of_neg (by simp [isFunction])
      rw [skipped, List.countP_cons_of_pos isFunction, ← Machine.addSteps_add, execAll, bind_eq_ok]
      constructor
      · rintro ⟨_, middle, first, last⟩
        obtain rfl := (exec_function_eq_ok isFunction fits).1 first
        exact rest.more ((ih (Nat.le_of_succ_le fits)).1 last)
      · intro done
        obtain ⟨middle, rfl⟩ := Machine.exists_addSteps_one
          (Nat.lt_of_lt_of_le (Nat.succ_pos _) (rest.falls done))
        exact ⟨(), middle, (exec_function_eq_ok isFunction fits).2 rfl,
          (ih (Nat.le_of_succ_le fits)).2 (rest.fewer done)⟩
    · have first : Shifts (stmt.exec env bound : Exec σ Unit) := (shifting σ env).exec bound stmt
      have kept : others (stmt :: stmts) = stmt :: others stmts :=
        List.filter_cons_of_pos (by simp [isFunction])
      rw [kept, List.countP_cons_of_neg isFunction, execAll, execAll, bind_eq_ok, bind_eq_ok]
      refine exists_congr fun _ => exists_congr fun middle => and_congr_right fun done => ?_
      exact ih (Nat.le_trans (first.falls done) fits)

theorem Exec.outcome_eq_ok {answer : Answer σ Unit} {after : σ} :
    outcome answer = (.ok (), after) ↔ ∃ final, answer = .ok () final ∧ final.sink = after := by
  cases answer with
  | ok _ machine =>
    constructor
    · intro ended
      exact ⟨machine, rfl, congrArg Prod.snd ended⟩
    · rintro ⟨final, same, rfl⟩
      cases same
      rfl
  | error fault machine =>
    constructor
    · intro ended
      cases ended
    · rintro ⟨final, same, -⟩
      cases same

namespace Linked.Rearranges

variable {linked moved : Linked}

theorem run_iff [Sink σ] (moves : linked.Rearranges moved) (limits : Limits) (sink after : σ) :
    linked.run limits sink = (.ok (), after) ↔ moved.run limits sink = (.ok (), after) := by
  have others := moves.program.others
  have count := moves.program.perm.countP_eq Stmt.isFunction
  have alike (stmts : List Stmt) :
      (Stmt.execAll ⟨linked.table, limits⟩ limits.steps stmts : Exec σ Unit) =
        Stmt.execAll ⟨moved.table, limits⟩ limits.steps stmts :=
    (resolvingAlike σ limits fun name argCount =>
      (moves.distinct.resolve_perm moves.perm name argCount).symm).execAll limits.steps stmts
  rw [run_eq_outcome, run_eq_outcome, outcome_eq_ok, outcome_eq_ok]
  refine exists_congr fun final => and_congr_left fun _ => ?_
  have fits : ({ stepsLeft := limits.steps, sink } : Machine σ).stepsLeft ≤ limits.steps := le_rfl
  refine (Stmt.execAll_iff_others ⟨linked.table, limits⟩ _ fits).trans
    (Iff.trans ?_ (Stmt.execAll_iff_others ⟨moved.table, limits⟩ _ fits).symm)
  rw [others, count, alike]

end Linked.Rearranges

theorem Stmt.lowerAll_others (keep : Bool) (stmts : List Stmt) (next : Nat) :
    lowerAll keep (others stmts) next = lowerAll keep stmts next := by
  induction stmts generalizing next with
  | nil => rfl
  | cons stmt stmts ih =>
    cases stmt with
    | function name params body =>
      change lowerAll keep (others stmts) next = _
      rw [ih, lowerAll]
      rfl
    | _ =>
      rw [others, List.filter_cons_of_pos rfl, lowerAll, lowerAll]
      dsimp only
      rw [← others, ih]

theorem Program.Rearranges.globals {program moved : Program} (moves : program.Rearranges moved) :
    moved.globals = program.globals := by
  refine moved.pairwise_globals.eq_of_mem_iff program.pairwise_globals fun name => ?_
  rw [mem_globals, mem_globals]
  exact (moves.perm.flatMap_right Stmt.vars).mem_iff

theorem Linked.Rearranges.lower {linked moved : Linked} (moves : linked.Rearranges moved) :
    moved.lower = { linked.lower with functions := moved.lower.functions } ∧
      moved.lower.functions.Perm linked.lower.functions := by
  have code : Stmt.lowerAll false moved.program.statements 0 =
      Stmt.lowerAll false linked.program.statements 0 := by
    rw [← Stmt.lowerAll_others, moves.program.others, Stmt.lowerAll_others]
  refine ⟨?_, moves.perm.map Declaration.lower⟩
  simp only [Linked.lower, code, moves.program.globals]

namespace C.File

def arrange (front prototypes definitions : List String) (main : String) : String :=
  "\n".intercalate (front ++ (if prototypes.isEmpty then [] else [String.join prototypes]) ++
    definitions ++ [main])

/-- The parts of a file before its prototypes, the declarations of global variables the last. -/
def front (file : File) : List String :=
  [renderHeaders file.headers] ++ file.prelude.map Function.render ++
    (if file.globals.isEmpty then []
      else [String.join (file.globals.map fun name => line 0 ("long long " ++ name ++ " = 0;"))])

def prototypes (file : File) : List String :=
  file.functions.map fun function => line 0 (function.signature ++ ";")

theorem render_eq_arrange (file : File) :
    file.render =
      arrange file.front file.prototypes (file.functions.map Function.render) file.main.render := by
  rw [render, sections, arrange, front, prototypes, List.isEmpty_map]

end C.File

namespace Tree

namespace Rearranges

variable {tree moved : Tree}

theorem run_ok [Sink σ] (moves : tree.Rearranges moved) {limits : Limits} {sink after : σ}
    (ran : tree.run limits sink = (.ok (), after)) : moved.run limits sink = (.ok (), after) := by
  rw [run] at ran
  cases link : Linked.ofTree tree with
  | error fault =>
    rw [link] at ran
    cases ran
  | ok linked =>
    rw [link] at ran
    obtain ⟨other, linkOther, rearranged⟩ := moves.link link
    rw [run, linkOther]
    exact (rearranged.run_iff limits sink after).1 ran

theorem generate_ok (moves : tree.Rearranges moved)
    (generated : ∃ text, tree.generate = .ok text) : ∃ text, moved.generate = .ok text := by
  obtain ⟨text, generated⟩ := generated
  obtain ⟨linked, link, -⟩ := generate_eq_ok generated
  obtain ⟨other, linkOther, -⟩ := moves.link link
  exact ⟨other.lower.render, by rw [generate, lower, linkOther]⟩

theorem lower_ok (moves : tree.Rearranges moved) {file other : C.File}
    (lowered : tree.lower = .ok file) (loweredOther : moved.lower = .ok other) :
    other = { file with functions := other.functions } ∧
      other.functions.Perm file.functions := by
  rw [lower] at lowered loweredOther
  cases link : Linked.ofTree tree with
  | error fault =>
    rw [link] at lowered
    cases lowered
  | ok linked =>
    obtain ⟨found, linkOther, rearranged⟩ := moves.link link
    rw [link] at lowered
    rw [linkOther] at loweredOther
    cases lowered
    cases loweredOther
    exact rearranged.lower

end Rearranges

/-- The place of a declaration does not matter. If a tree is rearranged with its statements other
than declarations in the same order, it runs to its end printing these values exactly if it did
before, under all limits; code is generated for it exactly if it was before, and that is read as a
file with the same globals, the same `main` and the same functions in some order. The two texts
have the same parts, but for the order of the prototypes and that of the definitions. -/
theorem declarations_hoisted (tree moved : Tree) (moves : tree.Rearranges moved) :
    (∀ limits values, tree.values limits = .ok values ↔ moved.values limits = .ok values) ∧
    ((∃ text, tree.generate = .ok text) ↔ ∃ text, moved.generate = .ok text) ∧
    ∀ text text', tree.generate = .ok text → moved.generate = .ok text' →
      (∃ file file' : C.File, C.File.ofText? text = some file ∧ C.File.ofText? text' = some file' ∧
        file.render = text ∧ file'.render = text' ∧
        tree.lower = .ok file ∧ moved.lower = .ok file' ∧
        file' = { file with functions := file'.functions } ∧
        file'.functions.Perm file.functions) ∧
      ∃ front prototypes prototypes' definitions definitions' main,
        text = C.File.arrange front prototypes definitions main ∧
        text' = C.File.arrange front prototypes' definitions' main ∧
        prototypes'.Perm prototypes ∧ definitions'.Perm definitions := by
  refine ⟨fun limits values => ?_, ⟨moves.generate_ok, moves.symm.generate_ok⟩, ?_⟩
  · rw [values_eq_ok, values_eq_ok]
    exact ⟨moves.run_ok, moves.symm.run_ok⟩
  · intro text text' generated generated'
    obtain ⟨linked, link, lowered, rfl⟩ := generate_eq_ok generated
    obtain ⟨linked', link', lowered', rfl⟩ := generate_eq_ok generated'
    obtain ⟨-, sound⟩ := Linked.ofTree_eq_ok link
    obtain ⟨-, sound'⟩ := Linked.ofTree_eq_ok link'
    obtain ⟨same, perm⟩ := moves.lower_ok lowered lowered'
    have front : linked'.lower.front = linked.lower.front := by rw [same]; rfl
    have main : linked'.lower.main = linked.lower.main := by rw [same]
    have arranged := linked'.lower.render_eq_arrange
    rw [front, main] at arranged
    exact ⟨⟨_, _, sound.legible.ofText?_render, sound'.legible.ofText?_render, rfl, rfl, lowered,
      lowered', same, perm⟩, linked.lower.front, linked.lower.prototypes, linked'.lower.prototypes,
      linked.lower.functions.map C.Function.render, linked'.lower.functions.map C.Function.render,
      linked.lower.main.render, linked.lower.render_eq_arrange, arranged, perm.map _, perm.map _⟩

/-- A call before the declaration it needs, and a declaration inside another one. With the
declarations moved to the front, the other way round, four steps are still just enough. -/
theorem declarations_hoisted_calls :
    let f := Stmt.toTree (.function "f" ["n"]
      (.ifThen (.var "n") (.function "g" [] (.print (.num "8")))))
    let h := Stmt.toTree (.function "h" ["n"]
      (.print (.binary (.arith .add) (.var "n") (.num "1"))))
    let calling := Stmt.toTree (.print (.call "h" [.num "4"]))
    let tree := Tree.program [calling, f, h]
    let moved := Tree.program [h, f, calling]
    let limits : Limits := { steps := 4 }
    tree.Rearranges moved ∧ moved.values limits = .ok #[5, 5] ∧
      ∃ file file' : C.File, tree.lower = .ok file ∧ moved.lower = .ok file' ∧
        file'.globals = file.globals ∧ file'.main = file.main ∧
        file'.functions.Perm file.functions := by
  intro f h calling tree moved limits
  have moves : tree.Rearranges moved := ⟨rfl, rfl, List.reverse_perm [calling, f, h], rfl⟩
  obtain ⟨runs, generates, emits⟩ := declarations_hoisted tree moved moves
  have ran : tree.values limits = .ok #[5, 5] := by rfl
  have generated : ∃ text, tree.generate = .ok text := ⟨_, rfl⟩
  obtain ⟨text', generated'⟩ := generates.1 generated
  obtain ⟨text, generated⟩ := generated
  obtain ⟨⟨file, file', -, -, -, -, lowered, lowered', same, perm⟩, -⟩ :=
    emits text text' generated generated'
  refine ⟨moves, (runs limits _).1 ran, file, file', lowered, lowered', ?_, ?_, perm⟩
  · rw [same]
  · rw [same]

end Tree

end ImpToC
