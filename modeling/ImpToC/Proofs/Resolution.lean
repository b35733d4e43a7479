import ImpToC.Proofs.Reached

/-! Names are resolved before a run, and for good. The calls a run makes are calls of the
program text, each with as many values as the text has arguments, so a call that could not be
resolved would have been found when the program was linked. Hence a run fails with a
malformed tree or a wrong call exactly if no code is generated, for the same reason, and then
it has not touched its sink. -/
namespace ImpToC

open Exec

variable {σ : Type}

theorem Expr.length_of_evalAll {call : String → List Int64 → Exec σ Int64} {args : List Expr}
    {values : List Int64} {machine after : Machine σ}
    (done : Expr.evalAll call args machine = .ok values after) : values.length = args.length := by
  induction args generalizing machine values after with
  | nil =>
    rw [Expr.evalAll] at done
    cases done
    rfl
  | cons arg args ih =>
    rw [Expr.evalAll, bind_apply] at done
    split at done
    · rename_i value middle first
      rw [bind_apply] at done
      split at done
      · rename_i others last rest
        cases done
        rw [List.length_cons, List.length_cons, ih rest]
      · cases done
    · cases done

def Activity.calls : Activity → List CallSite
  | execAll _ stmts => stmts.flatMap Stmt.calls
  | exec _ stmt => stmt.calls
  | rounds _ _ cond body => cond.calls ++ body.calls
  | eval _ expr => expr.calls
  | evalAll _ args => Expr.callsList args
  | call _ callee args => [⟨callee, args.length⟩]

namespace Linked.Sound

variable [Sink σ] {linked : Linked} {limits : Limits} {activity later : Activity}
  {machine after : Machine σ}

theorem calls_of_begins (sound : linked.Sound)
    (begins : Begins ⟨linked.table, limits⟩ activity machine later after)
    (known : activity.calls ⊆ linked.program.calls) : later.calls ⊆ linked.program.calls := by
  cases begins with
  | first => exact fun site mem => known (List.mem_append_left _ mem)
  | others done => exact fun site mem => known (List.mem_append_right _ mem)
  | assign | print | loop | roundNext => exact known
  | thenCond | elseCond | roundCond | left | arg =>
    exact fun site mem => known (List.mem_append_left _ mem)
  | thenBody | roundBody | right | otherArgs =>
    exact fun site mem => known (List.mem_append_right _ mem)
  | elseBody =>
    exact fun site mem => known (List.mem_append_right _ (List.mem_append_left _ mem))
  | elseOther =>
    exact fun site mem => known (List.mem_append_right _ (List.mem_append_right _ mem))
  | args => exact fun site mem => known (List.mem_cons_of_mem _ mem)
  | call done =>
    intro site mem
    rw [List.mem_singleton.1 mem, Expr.length_of_evalAll done]
    exact known List.mem_cons_self
  | body found shallow =>
    obtain ⟨listed, -⟩ := Table.get?_eq_some (Table.resolve_eq_ok found).1
    exact sound.calls_of_declared listed

theorem calls_of_reaches (sound : linked.Sound)
    (reaches : Reaches ⟨linked.table, limits⟩ activity machine later after)
    (known : activity.calls ⊆ linked.program.calls) : later.calls ⊆ linked.program.calls := by
  induction reaches with
  | refl => exact known
  | next begins _ ih => exact ih (sound.calls_of_begins begins known)

theorem resolves_of_reaches (sound : linked.Sound) {start bound : Nat} {callee : String}
    {args : List Int64}
    (reaches : Reaches ⟨linked.table, limits⟩ (.execAll start linked.program.statements) machine
      (.call bound callee args) after) :
    ∃ declaration, linked.table.resolve callee args.length = .ok declaration :=
  sound.resolved _ (sound.calls_of_reaches reaches (List.Subset.refl _) List.mem_cons_self)

end Linked.Sound

def RunError.isStatic : RunError → Bool
  | malformedTree _ => true
  | function _ => true
  | _ => false

theorem LinkError.isStatic_toRunError (fault : LinkError) : fault.toRunError.isStatic := by
  cases fault <;> rfl

theorem LinkError.toRunError_inj {a b : LinkError} : a.toRunError = b.toRunError ↔ a = b := by
  cases a <;> cases b <;> simp [toRunError]

theorem Linked.Sound.run_eq_error [Sink σ] {linked : Linked} (sound : linked.Sound)
    {limits : Limits} {sink : σ} {fault : RunError}
    (failed : (linked.run limits sink).1 = .error fault) : fault.isStatic = false := by
  unfold Linked.run at failed
  split at failed
  · cases failed
  · rename_i raised final ran
    cases failed
    obtain ⟨culprit, found, reaches, raises⟩ := Stmt.blames_execAll ran
    cases raises with
    | unresolved stray =>
      obtain ⟨declaration, resolved⟩ := sound.resolves_of_reaches reaches
      rw [stray] at resolved
      cases resolved
    | _ => rfl

namespace Tree

variable {tree : Tree} {fault : LinkError} {limits : Limits}

theorem generate_eq_error_iff :
    tree.generate = .error fault ↔ Linked.ofTree tree = .error fault := by
  unfold Tree.generate Tree.lower
  cases Linked.ofTree tree <;> simp

theorem run_of_ofTree_error [Sink σ] {sink : σ} (failed : Linked.ofTree tree = .error fault) :
    tree.run limits sink = (.error fault.toRunError, sink) := by
  rw [Tree.run, failed]

theorem run_eq_error_iff [Sink σ] (limits : Limits) (sink : σ) :
    (tree.run limits sink).1 = .error fault.toRunError ↔ Linked.ofTree tree = .error fault := by
  cases link : Linked.ofTree tree with
  | error other => simp [run_of_ofTree_error link, LinkError.toRunError_inj]
  | ok linked =>
    simp only [reduceCtorEq, iff_false]
    intro failed
    rw [Tree.run, link] at failed
    have late := (Linked.ofTree_eq_ok link).2.run_eq_error failed
    rw [LinkError.isStatic_toRunError] at late
    cases late

theorem write_of_ofTree_error {writer : Writer} (failed : Linked.ofTree tree = .error fault) :
    tree.write limits writer = (.error fault.toRunError, writer) := by
  rw [Tree.write, run_of_ofTree_error failed]

theorem write_eq_error_iff {writer : Writer} :
    (tree.write limits writer).1 = .error fault.toRunError ↔ Linked.ofTree tree = .error fault := by
  refine Iff.trans ?_ (run_eq_error_iff limits writer)
  rw [Tree.write]
  rcases tree.run limits writer with ⟨_ | ⟨⟩, kept, room?, whenFull, flushFault?, flushes⟩
  · rfl
  · cases flushFault? with
    | none => rfl
    | some reason => cases fault <;> simp [LinkError.toRunError, Writer.flush]

end Tree

/-- The answer of a run that was given the sink `before` agrees with code generation on the
faults that can be found before a run, and then the sink is as it was. -/
structure RefusesAlike (tree : Tree) (before : σ) (answer : Except RunError Unit × σ) : Prop where
  malformed : ∀ fault, tree.generate = .error (.malformedTree fault) ↔
    answer.1 = .error (.malformedTree fault)
  function : ∀ fault, tree.generate = .error (.function fault) ↔ answer.1 = .error (.function fault)
  untouched : ∀ fault, tree.generate = .error fault → answer.2 = before

theorem RefusesAlike.of_iff {tree : Tree} {before : σ} {answer : Except RunError Unit × σ}
    (same : ∀ fault : LinkError, answer.1 = .error fault.toRunError ↔
      Linked.ofTree tree = .error fault)
    (untouched : ∀ fault, Linked.ofTree tree = .error fault → answer.2 = before) :
    RefusesAlike tree before answer where
  malformed fault := Tree.generate_eq_error_iff.trans (same (.malformedTree fault)).symm
  function fault := Tree.generate_eq_error_iff.trans (same (.function fault)).symm
  untouched fault failed := untouched fault (Tree.generate_eq_error_iff.1 failed)

/-- Running a tree and generating code for it refuse the same trees for the same reasons, and
a run that refuses has written nothing. Once the tree has been read as a program, its table
built and its calls checked, every call that a run of it reaches names a function of the
table and has as many arguments as that has parameters. -/
theorem Tree.run_refuses_like_generate (tree : Tree) (limits : Limits) :
    (∀ (σ : Type) [Sink σ] (sink : σ), RefusesAlike tree sink (tree.run limits sink)) ∧
      (∀ writer, RefusesAlike tree writer (tree.write limits writer)) ∧
      ∀ program table, Program.ofTree tree = .ok program →
        Table.ofDeclarations program.declarations = .ok table →
        table.checkCalls program.calls = .ok () →
        ∀ (σ : Type) [Sink σ] (sink : σ) (bound : Nat) (callee : String) (args : List Int64)
          (machine : Machine σ),
          Reaches ⟨table, limits⟩ (.execAll limits.steps program.statements)
            { stepsLeft := limits.steps, sink } (.call bound callee args) machine →
          ∃ declaration, table.resolve callee args.length = .ok declaration ∧
            declaration ∈ table.declarations ∧ declaration.name = callee ∧
            declaration.params.length = args.length := by
  refine ⟨fun σ _ sink => ?_, fun writer => ?_, ?_⟩
  · exact .of_iff (fun _ => run_eq_error_iff limits sink)
      fun fault failed => by rw [run_of_ofTree_error failed]
  · exact .of_iff (fun _ => write_eq_error_iff)
      fun fault failed => by rw [write_of_ofTree_error failed]
  · intro program table read built checked σ _ sink bound callee args machine reaches
    have linked : Linked.ofProgram program = .ok ⟨program, table⟩ := by
      rw [Linked.ofProgram, built]
      simp only [checked]
    have sound := (Linked.ofProgram_eq_ok (Program.ofTree_eq_ok read).2 linked).2
    obtain ⟨declaration, resolved⟩ := sound.resolves_of_reaches reaches
    obtain ⟨found, count⟩ := Table.resolve_eq_ok resolved
    obtain ⟨listed, named⟩ := Table.get?_eq_some found
    exact ⟨declaration, resolved, listed, named, count⟩

/-- A program that prints before it would make a call to nowhere, and one that reaches a call. -/
theorem Tree.run_refuses_like_generate_calls :
    let stray := Program.toTree ⟨[.print (.num "1"), .print (.call "g" [])]⟩
    let declared : Declaration Stmt := ⟨"f", ["x"], .print (.var "x")⟩
    let table : Table Stmt := Table.empty.push declared rfl
    let calling : Program := ⟨[.print (.call "f" [.num "1"]), .function "f" ["x"] declared.body]⟩
    let limits : Limits := { steps := 3 }
    (stray.write limits {}).1 = .error (.function (.unknown "g")) ∧ (stray.write limits {}).2 = {} ∧
      ∃ machine : Machine (Array Int64),
        Reaches ⟨table, limits⟩ (.execAll 3 calling.statements)
          { stepsLeft := 3, sink := #[] } (.call 2 "f" [1]) machine ∧
        ∃ declaration, table.resolve "f" 1 = .ok declaration := by
  intro stray declared table calling limits
  have refused : stray.generate = .error (.function (.unknown "g")) := rfl
  have alike := (Tree.run_refuses_like_generate stray limits).2.1 {}
  have reaches : Reaches ⟨table, limits⟩ (.execAll 3 calling.statements)
      { stepsLeft := 3, sink := #[] } (.call 2 "f" [1])
      ({ stepsLeft := 2, sink := #[] } : Machine (Array Int64)) :=
    .next .first (.next (.print rfl) (.next (.call rfl) .refl))
  obtain ⟨declaration, resolved, -⟩ := (Tree.run_refuses_like_generate calling.toTree limits).2.2
    calling table rfl rfl rfl _ #[] 2 "f" [1] _ reaches
  exact ⟨(alike.function _).1 refused, alike.untouched _ refused, _, reaches, declaration, resolved⟩

end ImpToC
