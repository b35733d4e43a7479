import Mathlib.Logic.Embedding.Basic
import ImpToC.Proofs.Congruence
import ImpToC.Proofs.Shape

/-! Names carry no meaning. Variables and parameters are given other names, and functions, on
their own, other names too; as long as different names stay different, a program does what it did.
A variable and a function may have one name before, after or both: where a name stands says which
of the two it is.

The two runs go side by side. Their machines hold the same values, the second under the new names,
and they take the same steps, until both end in the same way or with a fault that differs by the
names in it only. -/
namespace ImpToC

abbrev Identifier : Type := { text : String // Token.isName text }

/-- The text of the new name; a text that is no name stays. -/
def Identifier.image (names : Identifier ↪ Identifier) (text : String) : String :=
  if isName : Token.isName text then names ⟨text, isName⟩ else text

namespace Identifier

variable (names : Identifier ↪ Identifier)

theorem image_of_isName {text : String} (isName : Token.isName text) :
    image names text = names ⟨text, isName⟩ :=
  dif_pos isName

theorem isName_image {text : String} : Token.isName (image names text) ↔ Token.isName text := by
  by_cases isName : Token.isName text
  · rw [image_of_isName names isName]
    exact iff_of_true (names ⟨text, isName⟩).property isName
  · rw [image, dif_neg isName]

theorem image_injective : Function.Injective (image names) := by
  intro a b same
  by_cases isName : Token.isName a
  · have otherIsName : Token.isName b := by rwa [← isName_image names, ← same, isName_image]
    rw [image_of_isName names isName, image_of_isName names otherIsName] at same
    exact congrArg Subtype.val (names.injective (Subtype.ext same))
  · have otherIsNot : ¬Token.isName b := by rwa [← isName_image names, ← same, isName_image]
    rwa [image, image, dif_neg isName, dif_neg otherIsNot] at same

end Identifier

/-- Other names for variables and parameters, and other names for functions. -/
structure Renaming where
  vars : Identifier ↪ Identifier
  functions : Identifier ↪ Identifier

namespace Renaming

variable (names : Renaming)

def var (text : String) : String := Identifier.image names.vars text

def function (text : String) : String := Identifier.image names.functions text

theorem var_injective : Function.Injective names.var := Identifier.image_injective names.vars

theorem function_injective : Function.Injective names.function :=
  Identifier.image_injective names.functions

theorem isWord_var {text : String} (isWord : Token.IsWord text.toList) :
    Token.IsWord (names.var text).toList := by
  rw [← Token.isName_iff] at isWord ⊢
  exact (Identifier.isName_image names.vars).2 isWord

theorem isWord_function {text : String} (isWord : Token.IsWord text.toList) :
    Token.IsWord (names.function text).toList := by
  rw [← Token.isName_iff] at isWord ⊢
  exact (Identifier.isName_image names.functions).2 isWord

end Renaming

def Tree.Value.rename (change : String → String) : Tree.Value → Tree.Value
  | name text => name (change text)
  | number digits => number digits
  | operator kind => operator kind

/-- The name a node carries itself, changed. -/
def Tree.relabel (change : String → String) : Tree → Tree
  | node kind value? children => node kind (value?.map (Value.rename change)) children

mutual

def Tree.rename (names : Renaming) : Tree → Tree
  | node .call value? (callee :: args) =>
    node .call value? (callee.relabel names.function :: Tree.renameList names args)
  | node .function value? (name :: parts) =>
    node .function value? (name.relabel names.function :: Tree.renameList names parts)
  | node kind value? children =>
    node kind (value?.map (Value.rename names.var)) (Tree.renameList names children)

def Tree.renameList (names : Renaming) : List Tree → List Tree
  | [] => []
  | tree :: trees => tree.rename names :: Tree.renameList names trees

end

mutual

def Expr.rename (names : Renaming) : Expr → Expr
  | num digits => num digits
  | var name => var (names.var name)
  | binary op left right => binary op (left.rename names) (right.rename names)
  | call callee args => call (names.function callee) (Expr.renameList names args)

def Expr.renameList (names : Renaming) : List Expr → List Expr
  | [] => []
  | arg :: args => arg.rename names :: Expr.renameList names args

end

def Stmt.rename (names : Renaming) : Stmt → Stmt
  | assign target value => assign (names.var target) (value.rename names)
  | print value => print (value.rename names)
  | ifThen cond body => ifThen (cond.rename names) (body.rename names)
  | ifElse cond body other => ifElse (cond.rename names) (body.rename names) (other.rename names)
  | loop cond body => loop (cond.rename names) (body.rename names)
  | function name params body =>
    function (names.function name) (params.map names.var) (body.rename names)

def Program.rename (names : Renaming) (program : Program) : Program :=
  ⟨program.statements.map (Stmt.rename names)⟩

def CallSite.rename (names : Renaming) (site : CallSite) : CallSite :=
  ⟨names.function site.callee, site.argCount⟩

def Declaration.rename (names : Renaming) (declaration : Declaration Stmt) : Declaration Stmt :=
  ⟨names.function declaration.name, declaration.params.map names.var,
    declaration.body.rename names⟩

def FunctionError.rename (names : Renaming) : FunctionError → FunctionError
  | duplicate name => duplicate (names.function name)
  | duplicateParameter function param =>
    duplicateParameter (names.function function) (names.var param)
  | unknown name => unknown (names.function name)
  | arityMismatch function expected found =>
    arityMismatch (names.function function) expected found

def RunError.rename (names : Renaming) : RunError → RunError
  | function fault => function (fault.rename names)
  | fault => fault

variable (names : Renaming)

theorem Expr.length_renameList (args : List Expr) :
    (Expr.renameList names args).length = args.length := by
  induction args with
  | nil => rfl
  | cons arg args ih => rw [Expr.renameList, List.length_cons, List.length_cons, ih]

theorem Tree.renameList_eq_map (trees : List Tree) :
    Tree.renameList names trees = trees.map (Tree.rename names) := by
  induction trees with
  | nil => rfl
  | cons tree trees ih => rw [Tree.renameList, List.map_cons, ih]

mutual

theorem Expr.toTree_rename (expr : Expr) :
    (expr.rename names).toTree = expr.toTree.rename names := by
  match expr with
  | .num digits => rfl
  | .var name => rfl
  | .binary op left right =>
    rw [Expr.rename, Expr.toTree, Expr.toTree, Expr.toTree_rename left,
      Expr.toTree_rename right]
    rfl
  | .call callee args =>
    rw [Expr.rename, Expr.toTree, Expr.toTree, Expr.toTrees_rename args]
    rfl

theorem Expr.toTrees_rename (args : List Expr) :
    Expr.toTrees (Expr.renameList names args) = Tree.renameList names (Expr.toTrees args) := by
  match args with
  | [] => rfl
  | arg :: args =>
    rw [Expr.renameList, Expr.toTrees, Expr.toTrees, Expr.toTree_rename arg,
      Expr.toTrees_rename args, Tree.renameList]

end

theorem Stmt.toTree_rename (stmt : Stmt) :
    (stmt.rename names).toTree = stmt.toTree.rename names := by
  induction stmt with
  | assign target value =>
    rw [rename, toTree, toTree, value.toTree_rename]
    rfl
  | print value =>
    rw [rename, toTree, toTree, value.toTree_rename]
    rfl
  | ifThen cond body ih =>
    rw [rename, toTree, toTree, cond.toTree_rename, ih]
    rfl
  | ifElse cond body other ihBody ihOther =>
    rw [rename, toTree, toTree, cond.toTree_rename, ihBody, ihOther]
    rfl
  | loop cond body ih =>
    rw [rename, toTree, toTree, cond.toTree_rename, ih]
    rfl
  | function name params body ih =>
    have leaves : (params.map names.var).map Tree.param =
        (params.map Tree.param).map (Tree.rename names) := by
      rw [List.map_map, List.map_map]
      rfl
    rw [rename, toTree, toTree, ih, Tree.function, Tree.function, Tree.rename,
      Tree.renameList_eq_map, List.map_append, leaves]
    rfl

theorem Tree.rename_program (statements : List Tree) :
    (Tree.program statements).rename names = Tree.program (statements.map (Tree.rename names)) := by
  rw [← Tree.renameList_eq_map]
  rfl

theorem Program.toTree_rename (program : Program) :
    (program.rename names).toTree = program.toTree.rename names := by
  rw [rename, toTree, toTree, Tree.rename_program, List.map_map, List.map_map]
  exact congrArg Tree.program (List.map_congr_left fun stmt _ => stmt.toTree_rename names)

mutual

theorem Expr.wellSpelled_rename {expr : Expr} (spelled : expr.WellSpelled) :
    (expr.rename names).WellSpelled := by
  match expr with
  | .num digits => exact spelled
  | .var name => exact names.isWord_var spelled
  | .binary op left right =>
    exact ⟨Expr.wellSpelled_rename spelled.1, Expr.wellSpelled_rename spelled.2⟩
  | .call callee args =>
    exact ⟨names.isWord_function spelled.1, Expr.allWellSpelled_rename spelled.2⟩

theorem Expr.allWellSpelled_rename {args : List Expr} (spelled : Expr.AllWellSpelled args) :
    Expr.AllWellSpelled (Expr.renameList names args) := by
  match args with
  | [] => exact spelled
  | arg :: args =>
    exact ⟨Expr.wellSpelled_rename spelled.1, Expr.allWellSpelled_rename spelled.2⟩

end

theorem Stmt.wellSpelled_rename {stmt : Stmt} (spelled : stmt.WellSpelled) :
    (stmt.rename names).WellSpelled := by
  induction stmt with
  | assign target value =>
    exact ⟨names.isWord_var spelled.1, Expr.wellSpelled_rename names spelled.2⟩
  | print value => exact Expr.wellSpelled_rename names spelled
  | ifThen cond body ih => exact ⟨Expr.wellSpelled_rename names spelled.1, ih spelled.2⟩
  | ifElse cond body other ihBody ihOther =>
    exact ⟨Expr.wellSpelled_rename names spelled.1, ihBody spelled.2.1, ihOther spelled.2.2⟩
  | loop cond body ih => exact ⟨Expr.wellSpelled_rename names spelled.1, ih spelled.2⟩
  | function name params body ih =>
    obtain ⟨isWord, areWords, bodySpelled⟩ := spelled
    exact ⟨names.isWord_function isWord,
      List.forall_mem_map.2 fun param mem => names.isWord_var (areWords param mem), ih bodySpelled⟩

theorem Program.ofTree_rename {tree : Tree} {program : Program}
    (reads : Program.ofTree tree = .ok program) :
    Program.ofTree (tree.rename names) = .ok (program.rename names) := by
  obtain ⟨spelled, rfl⟩ := Program.ofTree_eq_ok_iff.1 reads
  rw [← Program.toTree_rename, Program.ofTree_eq_ok_iff]
  exact ⟨List.forall_mem_map.2 fun stmt mem => Stmt.wellSpelled_rename names (spelled stmt mem),
    rfl⟩

theorem Stmt.declarations_rename (stmt : Stmt) :
    (stmt.rename names).declarations = stmt.declarations.map (Declaration.rename names) := by
  induction stmt with
  | assign target value => rfl
  | print value => rfl
  | ifThen cond body ih => exact ih
  | ifElse cond body other ihBody ihOther =>
    rw [rename, declarations, declarations, ihBody, ihOther, List.map_append]
  | loop cond body ih => exact ih
  | function name params body ih =>
    rw [rename, declarations, declarations, ih, List.map_cons, Declaration.rename]

mutual

theorem Expr.calls_rename (expr : Expr) :
    (expr.rename names).calls = expr.calls.map (CallSite.rename names) := by
  match expr with
  | .num digits => rfl
  | .var name => rfl
  | .binary op left right =>
    rw [Expr.rename, Expr.calls, Expr.calls, Expr.calls_rename left, Expr.calls_rename right,
      List.map_append]
  | .call callee args =>
    rw [Expr.rename, Expr.calls, Expr.calls, Expr.callsList_rename args, List.map_cons,
      CallSite.rename, Expr.length_renameList]

theorem Expr.callsList_rename (args : List Expr) :
    Expr.callsList (Expr.renameList names args) =
      (Expr.callsList args).map (CallSite.rename names) := by
  match args with
  | [] => rfl
  | arg :: args =>
    rw [Expr.renameList, Expr.callsList, Expr.callsList, Expr.calls_rename arg,
      Expr.callsList_rename args, List.map_append]

end

theorem Stmt.calls_rename (stmt : Stmt) :
    (stmt.rename names).calls = stmt.calls.map (CallSite.rename names) := by
  induction stmt with
  | assign target value => exact value.calls_rename names
  | print value => exact value.calls_rename names
  | ifThen cond body ih => rw [rename, calls, calls, cond.calls_rename, ih, List.map_append]
  | ifElse cond body other ihBody ihOther =>
    rw [rename, calls, calls, cond.calls_rename, ihBody, ihOther, List.map_append, List.map_append]
  | loop cond body ih => rw [rename, calls, calls, cond.calls_rename, ih, List.map_append]
  | function name params body ih => exact ih

theorem Program.declarations_rename (program : Program) :
    (program.rename names).declarations = program.declarations.map (Declaration.rename names) := by
  rw [declarations, declarations, rename, List.flatMap_map, List.map_flatMap]
  exact List.flatMap_congr fun stmt _ => stmt.declarations_rename names

theorem Program.calls_rename (program : Program) :
    (program.rename names).calls = program.calls.map (CallSite.rename names) := by
  rw [calls, calls, rename, List.flatMap_map, List.map_flatMap]
  exact List.flatMap_congr fun stmt _ => stmt.calls_rename names

theorem firstRepeat?_map {change : String → String} (injective : Function.Injective change)
    (seen texts : List String) :
    firstRepeat? (seen.map change) (texts.map change) = (firstRepeat? seen texts).map change := by
  induction texts generalizing seen with
  | nil => rfl
  | cons text texts ih =>
    have known_iff : change text ∈ seen.map change ↔ text ∈ seen :=
      List.mem_map_of_injective injective
    rw [List.map_cons, firstRepeat?, firstRepeat?]
    by_cases known : text ∈ seen
    · rw [if_pos (known_iff.2 known), if_pos known, Option.map_some]
    · rw [if_neg (mt known_iff.1 known), if_neg known, ← List.map_cons, ih]

namespace Table

theorem lookup_map_function (index : List (String × Nat)) (name : String) :
    (index.map (Prod.map names.function id)).lookup (names.function name) = index.lookup name := by
  induction index with
  | nil => rfl
  | cons entry index ih =>
    rw [List.map_cons, Prod.map, List.lookup_cons, List.lookup_cons, ih, id]
    simp only [Bool.beq_eq_decide_eq, names.function_injective.eq_iff]

theorem lookup_map_function_eq_none (index : List (String × Nat)) {name : String}
    (outside : ∀ text, names.function text ≠ name) :
    (index.map (Prod.map names.function id)).lookup name = none := by
  induction index with
  | nil => rfl
  | cons entry index ih =>
    rw [List.map_cons, Prod.map, List.lookup_cons, ih, beq_false_of_ne (outside entry.1).symm]

def rename (table : Table Stmt) : Table Stmt where
  declarations := table.declarations.map (Declaration.rename names)
  index := table.index.map (Prod.map names.function id)
  inStep name := by
    rw [List.findIdx?_map]
    by_cases image : ∃ text, names.function text = name
    · obtain ⟨text, rfl⟩ := image
      rw [lookup_map_function, table.inStep]
      congr 1
      funext declaration
      simp only [Function.comp_apply, Declaration.rename, Bool.beq_eq_decide_eq,
        names.function_injective.eq_iff]
    · rw [not_exists] at image
      rw [lookup_map_function_eq_none names table.index image, eq_comm, List.findIdx?_eq_none_iff]
      exact fun declaration _ => beq_false_of_ne (image declaration.name)

variable (table : Table Stmt)

theorem get?_rename (name : String) :
    (table.rename names).get? (names.function name) =
      (table.get? name).map (Declaration.rename names) := by
  rw [get?, get?, rename, lookup_map_function]
  cases table.index.lookup name with
  | none => rfl
  | some position => exact List.getElem?_map

theorem extend_rename (declaration : Declaration Stmt) :
    (table.rename names).extend (declaration.rename names) =
      ((table.extend declaration).map (rename names)).mapError (FunctionError.rename names) := by
  have params : firstRepeat? [] (declaration.rename names).params =
      (firstRepeat? [] declaration.params).map names.var :=
    firstRepeat?_map names.var_injective [] declaration.params
  have known : (table.rename names).index.lookup (declaration.rename names).name =
      table.index.lookup declaration.name :=
    lookup_map_function names table.index declaration.name
  cases repeats : firstRepeat? [] declaration.params with
  | some param =>
    rw [repeats] at params
    rw [extend_of_repeat repeats, extend_of_repeat params]
    rfl
  | none =>
    rw [repeats] at params
    cases found : table.index.lookup declaration.name with
    | some position =>
      rw [extend_of_known repeats found, extend_of_known params (known.trans found)]
      rfl
    | none =>
      rw [extend_of_fresh repeats found, extend_of_fresh params (known.trans found)]
      simp [Except.map, Except.mapError, push, rename, Declaration.rename]

theorem extendAll_rename (declarations : List (Declaration Stmt)) :
    (table.rename names).extendAll (declarations.map (Declaration.rename names)) =
      ((table.extendAll declarations).map (rename names)).mapError
        (FunctionError.rename names) := by
  induction declarations generalizing table with
  | nil => rfl
  | cons declaration declarations ih =>
    rw [List.map_cons, extendAll, extendAll, extend_rename]
    cases table.extend declaration with
    | error fault => rfl
    | ok extended => exact ih extended

theorem resolve_rename (name : String) (argCount : Nat) :
    (table.rename names).resolve (names.function name) argCount =
      ((table.resolve name argCount).map (Declaration.rename names)).mapError
        (FunctionError.rename names) := by
  rw [resolve, resolve, get?_rename]
  cases table.get? name with
  | none => rfl
  | some declaration =>
    simp only [Option.map_some, Declaration.rename, List.length_map]
    split <;> rfl

theorem checkCalls_rename (sites : List CallSite) :
    (table.rename names).checkCalls (sites.map (CallSite.rename names)) =
      (table.checkCalls sites).mapError (FunctionError.rename names) := by
  induction sites with
  | nil => rfl
  | cons site sites ih =>
    rw [List.map_cons, checkCalls, checkCalls, CallSite.rename, resolve_rename, ih]
    cases table.resolve site.callee site.argCount <;> rfl

end Table

def Linked.rename (linked : Linked) : Linked :=
  ⟨linked.program.rename names, linked.table.rename names⟩

theorem Linked.ofProgram_rename (program : Program) :
    Linked.ofProgram (program.rename names) =
      ((Linked.ofProgram program).map (Linked.rename names)).mapError
        (FunctionError.rename names) := by
  have tables := Table.extendAll_rename names .empty program.declarations
  rw [← Program.declarations_rename] at tables
  cases built : Table.ofDeclarations program.declarations with
  | error fault =>
    have failed : Table.ofDeclarations (program.rename names).declarations =
        .error (fault.rename names) := tables.trans (by rw [← Table.ofDeclarations, built]; rfl)
    simp only [Linked.ofProgram, built, failed]
    rfl
  | ok table =>
    have extended : Table.ofDeclarations (program.rename names).declarations =
        .ok (table.rename names) := tables.trans (by rw [← Table.ofDeclarations, built]; rfl)
    have calls := Table.checkCalls_rename names table program.calls
    rw [← Program.calls_rename] at calls
    simp only [Linked.ofProgram, built, extended, calls]
    cases table.checkCalls program.calls <;> rfl

def Frame.rename (frame : Frame) : Frame :=
  { frame with params := frame.params.map fun entry => (names.var entry.1, entry.2) }

theorem Frame.lookup_rename (params : List (String × Int64)) (name : String) :
    (params.map fun entry => (names.var entry.1, entry.2)).lookup (names.var name) =
      params.lookup name := by
  induction params with
  | nil => rfl
  | cons entry params ih =>
    obtain ⟨param, value⟩ := entry
    by_cases same : name = param
    · subst same
      rw [List.map_cons, List.lookup_cons_self, List.lookup_cons_self]
    · have differ : names.var name ≠ names.var param := names.var_injective.ne same
      rw [List.map_cons, List.lookup_cons, List.lookup_cons, beq_false_of_ne differ,
        beq_false_of_ne same, ih]

theorem Frame.assign_rename (name : String) (value : Int64) (params : List (String × Int64)) :
    assign (names.var name) value (params.map fun entry => (names.var entry.1, entry.2)) =
      (assign name value params).map fun entry => (names.var entry.1, entry.2) := by
  induction params with
  | nil => rfl
  | cons entry params ih =>
    obtain ⟨param, old⟩ := entry
    rw [List.map_cons, assign, assign]
    by_cases same : param = name
    · rw [if_pos (congrArg names.var same), if_pos same, List.map_cons]
    · rw [if_neg (names.var_injective.ne same), if_neg same, List.map_cons, ih]

variable {σ α β : Type}

/-- The second machine is the first one after renaming: it holds the same values under the new
names, and is the same otherwise. -/
inductive Machine.Renamed : Machine σ → Machine σ → Prop where
  | mk {globals globals' : Std.HashMap String Int64} {frames : List Frame} {stepsLeft : Nat}
    {sink : σ} (same : ∀ name, globals'.getD (names.var name) 0 = globals.getD name 0) :
    Renamed { globals, frames, stepsLeft, sink }
      { globals := globals', frames := frames.map (Frame.rename names), stepsLeft, sink }

namespace Machine.Renamed

variable {names} {machine other : Machine σ}

theorem length_frames (renamed : Renamed names machine other) :
    other.frames.length = machine.frames.length := by
  cases renamed with
  | mk => exact List.length_map _

theorem load (renamed : Renamed names machine other) (name : String) :
    other.load (names.var name) = machine.load name := by
  cases renamed with
  | @mk _ _ frames _ _ same =>
    cases frames with
    | nil => exact same name
    | cons frame frames =>
      simp only [Machine.load, List.map_cons, Frame.rename, Frame.lookup_rename, same]

theorem store (renamed : Renamed names machine other) (name : String) (value : Int64) :
    Renamed names (machine.store name value) (other.store (names.var name) value) := by
  cases renamed with
  | @mk globals globals' frames _ _ same =>
    have inserted (read : String) :
        (globals'.insert (names.var name) value).getD (names.var read) 0 =
          (globals.insert name value).getD read 0 := by
      rw [Std.HashMap.getD_insert, Std.HashMap.getD_insert, same]
      simp only [Bool.beq_eq_decide_eq, names.var_injective.eq_iff]
    cases frames with
    | nil => exact .mk inserted
    | cons frame frames =>
      simp only [Machine.store, List.map_cons, Frame.rename, Frame.lookup_rename,
        Frame.assign_rename]
      split
      · exact .mk same
      · exact .mk inserted

theorem record (renamed : Renamed names machine other) (value : Int64) :
    Renamed names (machine.record value) (other.record value) := by
  cases renamed with
  | @mk _ _ frames _ _ same => cases frames <;> exact .mk same

theorem enter (renamed : Renamed names machine other) (frame : Frame) :
    Renamed names (machine.enter frame) (other.enter (frame.rename names)) := by
  cases renamed with
  | mk same => exact .mk same

theorem leave (renamed : Renamed names machine other) :
    Renamed names machine.leave other.leave := by
  cases renamed with
  | @mk _ _ frames _ _ same => cases frames <;> exact .mk same

theorem result (renamed : Renamed names machine other) : other.result = machine.result := by
  cases renamed with
  | @mk _ _ frames => cases frames <;> rfl

end Machine.Renamed

namespace Exec

/-- Two answers that differ by the names in the machine, and in the fault if there is one. -/
inductive Alike : Answer σ α → Answer σ α → Prop where
  | ok {a : α} {machine other : Machine σ} (renamed : machine.Renamed names other) :
    Alike (.ok a machine) (.ok a other)
  | error {fault : RunError} {machine other : Machine σ} (renamed : machine.Renamed names other) :
    Alike (.error fault machine) (.error (fault.rename names) other)

/-- The second computation does on the renamed machine what the first does. -/
def Echoes (run other : Exec σ α) : Prop :=
  ∀ machine machine', machine.Renamed names machine' → Alike names (run machine) (other machine')

variable {names}

theorem Echoes.bind {run other : Exec σ α} {next next' : α → Exec σ β}
    (start : Echoes names run other) (rest : ∀ a, Echoes names (next a) (next' a)) :
    Echoes names (run >>= next) (other >>= next') := by
  intro machine machine' renamed
  rw [bind_apply, bind_apply]
  have answers := start machine machine' renamed
  cases ran : run machine with
  | ok a middle =>
    rw [ran] at answers
    generalize other machine' = answer at answers ⊢
    cases answers with
    | ok renamed => exact rest a _ _ renamed
  | error fault after =>
    rw [ran] at answers
    generalize other machine' = answer at answers ⊢
    cases answers with
    | error renamed => exact .error renamed

theorem echoes_pure (a : α) : Echoes names (pure a : Exec σ α) (pure a) :=
  fun _ _ renamed => .ok renamed

theorem echoes_load (name : String) :
    Echoes names (load name : Exec σ Int64) (load (names.var name)) := by
  intro machine machine' renamed
  rw [load, load, renamed.load]
  exact .ok renamed

theorem echoes_store (name : String) (value : Int64) :
    Echoes names (store name value : Exec σ Unit) (store (names.var name) value) :=
  fun _ _ renamed => .ok (renamed.store name value)

theorem echoes_record (value : Int64) :
    Echoes names (record value : Exec σ Unit) (record value) :=
  fun _ _ renamed => .ok (renamed.record value)

theorem echoes_put [Sink σ] (value : Int64) :
    Echoes names (put value : Exec σ Unit) (put value) := by
  intro machine machine' renamed
  cases renamed with
  | @mk _ _ _ _ sink same =>
    simp only [put]
    obtain ⟨after, reason?⟩ := Sink.put value sink
    cases reason? with
    | none => exact .ok (.mk same)
    | some reason => exact .error (.mk same)

theorem echoes_step (limits : Limits) :
    Echoes names (step limits : Exec σ Unit) (step limits) := by
  intro machine machine' renamed
  cases renamed with
  | @mk _ _ _ stepsLeft _ same =>
    cases stepsLeft with
    | zero => exact .error (.mk same)
    | succ left => exact .ok (.mk same)

theorem echoes_throw (fault : RunError) :
    Echoes names (throw fault : Exec σ α) (throw (fault.rename names)) :=
  fun _ _ renamed => .error renamed

theorem echoes_operate (op : Operator) (a b : Int64) :
    Echoes names (operate op a b : Exec σ Int64) (operate op a b) := by
  rw [operate]
  cases op.result? a b with
  | some value => exact echoes_pure value
  | none => exact echoes_throw .divisionByZero

theorem Echoes.within {body body' : Exec σ Unit} (bodies : Echoes names body body')
    (frame : Frame) : Echoes names (within frame body) (within (frame.rename names) body') := by
  intro machine machine' renamed
  have answers := bodies _ _ (renamed.enter frame)
  rw [Exec.within, Exec.within]
  generalize body (machine.enter frame) = answer at answers ⊢
  generalize body' (machine'.enter (frame.rename names)) = answer' at answers ⊢
  cases answers with
  | ok renamed =>
    simp only [renamed.result]
    exact .ok renamed.leave
  | error renamed => exact .error renamed.leave

theorem rename_zip (params : List String) (args : List Int64) :
    Frame.rename names { params := params.zip args } =
      { params := (params.map names.var).zip args } := by
  rw [Frame.rename, List.zip_map_left]
  rfl

theorem echoes_call (table : Table Stmt) (limits : Limits) {run run' : Stmt → Exec σ Unit}
    (bodies : ∀ stmt : Stmt, Echoes names (run stmt) (run' (stmt.rename names)))
    (callee : String) (args : List Int64) :
    Echoes names (call ⟨table, limits⟩ run callee args)
      (call ⟨table.rename names, limits⟩ run' (names.function callee) args) := by
  intro machine machine' renamed
  have resolved := table.resolve_rename names callee args.length
  cases found : table.resolve callee args.length with
  | error fault =>
    rw [found] at resolved
    rw [call_of_unresolved found, call_of_unresolved resolved]
    exact .error renamed
  | ok declaration =>
    rw [found] at resolved
    by_cases shallow : machine.frames.length < limits.callDepth
    · have shallow' : machine'.frames.length < limits.callDepth := by rwa [renamed.length_frames]
      rw [call_of_shallow found shallow, call_of_shallow resolved shallow', Declaration.rename,
        ← rename_zip]
      exact (bodies declaration.body).within _ machine machine' renamed
    · have deep : ¬machine'.frames.length < limits.callDepth := by rwa [renamed.length_frames]
      rw [call_of_deep found shallow, call_of_deep resolved deep]
      exact .error renamed

theorem Echoes.repeatWhile {cond cond' : Exec σ Int64} {body body' : Exec σ Unit}
    (limits : Limits) (conds : Echoes names cond cond') (bodies : Echoes names body body')
    (rounds : Nat) :
    Echoes names (repeatWhile limits cond body rounds) (repeatWhile limits cond' body' rounds) := by
  induction rounds with
  | zero => exact echoes_throw (.stepLimitExceeded limits.steps)
  | succ rounds ih =>
    rw [repeatWhile_eq_bind, repeatWhile_eq_bind]
    refine conds.bind fun value => ?_
    split
    · exact echoes_pure ()
    · exact bodies.bind fun _ => ih

end Exec

open Exec (Echoes echoes_pure)

mutual

theorem Expr.echoes_eval {call call' : String → List Int64 → Exec σ Int64}
    (calls : ∀ callee args, Echoes names (call callee args) (call' (names.function callee) args))
    (expr : Expr) : Echoes names (expr.eval call) ((expr.rename names).eval call') := by
  match expr with
  | .num digits => exact echoes_pure _
  | .var name => exact Exec.echoes_load name
  | .binary op left right =>
    rw [Expr.rename, Expr.eval, Expr.eval]
    exact (Expr.echoes_eval calls left).bind fun a =>
      (Expr.echoes_eval calls right).bind fun b => Exec.echoes_operate op a b
  | .call callee args =>
    rw [Expr.rename, Expr.eval, Expr.eval]
    exact (Expr.echoes_evalAll calls args).bind fun values => calls callee values

theorem Expr.echoes_evalAll {call call' : String → List Int64 → Exec σ Int64}
    (calls : ∀ callee args, Echoes names (call callee args) (call' (names.function callee) args))
    (args : List Expr) :
    Echoes names (Expr.evalAll call args) (Expr.evalAll call' (Expr.renameList names args)) := by
  match args with
  | [] => exact echoes_pure _
  | arg :: args =>
    rw [Expr.renameList, Expr.evalAll, Expr.evalAll]
    exact (Expr.echoes_eval calls arg).bind fun value =>
      (Expr.echoes_evalAll calls args).bind fun values => echoes_pure _

end

/-- How a run ends, with the new names in a fault that names something. -/
def RunError.renameIn (outcome : Except RunError α × β) : Except RunError α × β :=
  (outcome.1.mapError (RunError.rename names), outcome.2)

theorem RunError.renameIn_ok (a : α) (b : β) : renameIn names (.ok a, b) = (.ok a, b) := rfl

theorem Exec.Alike.outcome_eq {answer other : Answer σ Unit} (alike : Alike names answer other) :
    outcome other = RunError.renameIn names (outcome answer) := by
  cases alike with
  | ok renamed =>
    cases renamed
    rfl
  | error renamed =>
    cases renamed
    rfl

variable [Sink σ] (table : Table Stmt) (limits : Limits)

theorem Stmt.echoes_exec (bound : Nat) (stmt : Stmt) :
    Echoes names (stmt.exec ⟨table, limits⟩ bound : Exec σ Unit)
      ((stmt.rename names).exec ⟨table.rename names, limits⟩ bound) := by
  induction bound generalizing stmt with
  | zero => exact Exec.echoes_throw (.stepLimitExceeded limits.steps)
  | succ bound ih =>
    have eval := Expr.echoes_eval names (Exec.echoes_call table limits ih)
    rw [Stmt.exec, Stmt.exec]
    refine (Exec.echoes_step limits).bind fun _ => ?_
    cases stmt with
    | assign target value =>
      exact (eval value).bind fun v =>
        (Exec.echoes_store target v).bind fun _ => Exec.echoes_record v
    | print value =>
      exact (eval value).bind fun v => (Exec.echoes_put v).bind fun _ => Exec.echoes_record v
    | ifThen cond body =>
      refine (eval cond).bind fun v => ?_
      split
      · exact echoes_pure ()
      · exact ih body
    | ifElse cond body other =>
      refine (eval cond).bind fun v => ?_
      split
      · exact ih other
      · exact ih body
    | loop cond body => exact (eval cond).repeatWhile limits (ih body) (bound + 1)
    | function name params body => exact echoes_pure ()

theorem Stmt.echoes_execAll (bound : Nat) (stmts : List Stmt) :
    Echoes names (Stmt.execAll ⟨table, limits⟩ bound stmts : Exec σ Unit)
      (Stmt.execAll ⟨table.rename names, limits⟩ bound (stmts.map (Stmt.rename names))) := by
  induction stmts with
  | nil => exact echoes_pure ()
  | cons stmt stmts ih => exact (Stmt.echoes_exec names table limits bound stmt).bind fun _ => ih

theorem Linked.run_rename (linked : Linked) (sink : σ) :
    (linked.rename names).run limits sink =
      RunError.renameIn names (linked.run limits sink) := by
  have renamed : Machine.Renamed names { stepsLeft := limits.steps, sink }
      { stepsLeft := limits.steps, sink } :=
    .mk fun name => by rw [Std.HashMap.getD_empty, Std.HashMap.getD_empty]
  rw [run_eq_outcome, run_eq_outcome]
  exact (Stmt.echoes_execAll names linked.table limits limits.steps linked.program.statements _ _
    renamed).outcome_eq

namespace Tree

variable {tree : Tree} {program : Program}

theorem run_rename (reads : Program.ofTree tree = .ok program) (sink : σ) :
    (tree.rename names).run limits sink = RunError.renameIn names (tree.run limits sink) := by
  have readsRenamed := Program.ofTree_rename names reads
  have links := Linked.ofProgram_rename names program
  cases linked : Linked.ofProgram program with
  | error fault =>
    rw [linked] at links
    simp only [run, Linked.ofTree, reads, readsRenamed, linked, links]
    rfl
  | ok found =>
    rw [linked] at links
    simp only [run, Linked.ofTree, reads, readsRenamed, linked, links]
    exact Linked.run_rename names limits found sink

theorem values_rename (reads : Program.ofTree tree = .ok program) :
    (tree.rename names).values limits = (tree.values limits).mapError (RunError.rename names) := by
  rw [values, values, run_rename names limits reads]
  obtain ⟨_ | _, printed⟩ := tree.run limits (#[] : Array Int64) <;> rfl

theorem write_rename (reads : Program.ofTree tree = .ok program) (writer : Writer) :
    (tree.rename names).write limits writer =
      RunError.renameIn names (tree.write limits writer) := by
  rw [write, write, run_rename names limits reads]
  obtain ⟨_ | _, after⟩ := tree.run limits writer
  · rfl
  · simp only [RunError.renameIn_ok, Writer.flush]
    cases after.flushFault? <;> rfl

/-- A program whose variables and parameters, and apart from them its functions, are given other
names runs as it did: it prints the same to any sink, under all limits, and ends in the same way.
Only where it is refused for a function, or for a parameter, the fault has the new names. -/
theorem rename_runs_alike (reads : Program.ofTree tree = .ok program) :
    Program.ofTree (tree.rename names) = .ok (program.rename names) ∧
      (∀ (σ : Type) [Sink σ] (sink : σ),
        (tree.rename names).run limits sink =
          ((tree.run limits sink).1.mapError (RunError.rename names), (tree.run limits sink).2)) ∧
      (∀ writer : Writer,
        (tree.rename names).write limits writer =
          ((tree.write limits writer).1.mapError (RunError.rename names),
            (tree.write limits writer).2)) ∧
      (tree.rename names).values limits =
        (tree.values limits).mapError (RunError.rename names) :=
  ⟨Program.ofTree_rename names reads, fun _ _ sink => run_rename names limits reads sink,
    write_rename names limits reads, values_rename names limits reads⟩

/-- A parameter may take the name of its own function. A call of a function that is not declared is
refused with the new name, which may be one that variables had. -/
theorem rename_runs_alike_shared :
    let x : Identifier := ⟨"x", rfl⟩
    let f : Identifier := ⟨"f", rfl⟩
    let g : Identifier := ⟨"g", rfl⟩
    let names : Renaming := ⟨(Equiv.swap x f).toEmbedding, (Equiv.swap g x).toEmbedding⟩
    let calling (callee param : String) : Tree := Tree.program
      [function "f" [param] (print (.binary (.arith .add) (ident param) (ident param))),
        print (call callee [num "3"])]
    let limits : Limits := { steps := 3 }
    (∃ program, Program.ofTree (calling "f" "x") = .ok program) ∧
      (∃ program, Program.ofTree (calling "g" "x") = .ok program) ∧
      (calling "f" "x").rename names = calling "f" "f" ∧
      (calling "f" "f").values limits = .ok #[6, 6] ∧
      (calling "g" "x").values limits = .error (.function (.unknown "g")) ∧
      ((calling "g" "x").rename names).values limits = .error (.function (.unknown "x")) := by
  intro x f g names calling limits
  have shared : (calling "f" "x").rename names = calling "f" "f" := by decide
  have ran : (calling "f" "x").values limits = .ok #[6, 6] := by rfl
  have refused : (calling "g" "x").values limits = .error (.function (.unknown "g")) := by rfl
  have isProgram : ∃ program, Program.ofTree (calling "f" "x") = .ok program := ⟨_, rfl⟩
  have isProgram' : ∃ program, Program.ofTree (calling "g" "x") = .ok program := ⟨_, rfl⟩
  obtain ⟨program, reads⟩ := isProgram
  obtain ⟨program', reads'⟩ := isProgram'
  refine ⟨⟨program, reads⟩, ⟨program', reads'⟩, shared, ?_, refused, ?_⟩
  · rw [← shared, (rename_runs_alike names limits reads).2.2.2, ran]
    rfl
  · rw [(rename_runs_alike names limits reads').2.2.2, refused]
    decide

end Tree

end ImpToC
