import ImpToC.Proofs.C.Reading
import ImpToC.Proofs.Outline
import ImpToC.Proofs.Scoping

/-! A generated file as a whole. Its global variables are the variables of the program, in
order; every function that is called has one prototype and one definition and takes as many
parameters as there are arguments; and the code of each function is in order by itself. -/
namespace ImpToC

namespace Tree

/-- The children of a node that can be variables: not the name that a call or a declaration
begins with. -/
def Kind.inner (kind : Kind) (children : List Tree) : List Tree :=
  match kind with
  | .call | .function => children.tail
  | _ => children

/-- The name stands in the tree at an identifier that is neither the callee of a call nor
the name of a declared function. -/
inductive Mentions (name : String) : Tree → Prop where
  | ident {children : List Tree} : Mentions name (.node .ident (some (.name name)) children)
  | within {kind : Kind} {value? : Option Value} {children : List Tree} {child : Tree}
    (notName : kind ≠ .ident) (inside : child ∈ kind.inner children)
    (mentions : Mentions name child) : Mentions name (.node kind value? children)

variable {name : String}

theorem mentions_node {kind : Kind} {value? : Option Value} {children : List Tree}
    (notName : kind ≠ .ident) :
    Mentions name (.node kind value? children) ↔
      ∃ child ∈ kind.inner children, Mentions name child := by
  constructor
  · intro mentions
    cases mentions with
    | ident => exact absurd rfl notName
    | within _ inside mentions => exact ⟨_, inside, mentions⟩
  · rintro ⟨child, inside, mentions⟩
    exact .within notName inside mentions

theorem mentions_ident {text : String} : Mentions name (.ident text) ↔ name = text := by
  constructor
  · intro mentions
    cases mentions with
    | ident => rfl
    | within notName => exact absurd rfl notName
  · rintro rfl
    exact .ident

theorem not_mentions_param {text : String} : ¬Mentions name (.param text) := by
  rw [param, mentions_node (by decide)]
  rintro ⟨child, inside, -⟩
  cases inside

end Tree

open ImpToC.Tree (mentions_node mentions_ident)

variable {name : String}

mutual

theorem Expr.mentions_toTree {expr : Expr} : expr.toTree.Mentions name ↔ name ∈ expr.vars := by
  match expr with
  | .num digits =>
    rw [Expr.toTree, Tree.num, mentions_node (by decide), Expr.vars]
    simp [Tree.Kind.inner]
  | .var text =>
    rw [Expr.toTree, mentions_ident, Expr.vars, List.mem_singleton]
  | .binary op left right =>
    rw [Expr.toTree, Tree.binary, mentions_node (by decide), Expr.vars, List.mem_append,
      ← Expr.mentions_toTree, ← Expr.mentions_toTree]
    simp [Tree.Kind.inner]
  | .call callee args =>
    rw [Expr.toTree, Tree.call, mentions_node (by decide), Expr.vars, ← Expr.mentions_toTrees]
    rfl

theorem Expr.mentions_toTrees {args : List Expr} :
    (∃ tree ∈ Expr.toTrees args, tree.Mentions name) ↔ name ∈ Expr.varsList args := by
  match args with
  | [] => simp [Expr.toTrees, Expr.varsList]
  | arg :: args =>
    rw [Expr.toTrees, Expr.varsList, List.mem_append, ← Expr.mentions_toTree,
      ← Expr.mentions_toTrees]
    simp

end

theorem Stmt.mentions_toTree {stmt : Stmt} : stmt.toTree.Mentions name ↔ name ∈ stmt.vars := by
  induction stmt with
  | assign target value =>
    rw [Stmt.toTree, Tree.assign, mentions_node (by decide), Stmt.vars, List.mem_cons,
      ← Expr.mentions_toTree, ← mentions_ident]
    simp [Tree.Kind.inner]
  | print value =>
    rw [Stmt.toTree, Tree.print, mentions_node (by decide), Stmt.vars, ← Expr.mentions_toTree]
    simp [Tree.Kind.inner]
  | ifThen cond body ih =>
    rw [Stmt.toTree, Tree.ifThen, mentions_node (by decide), Stmt.vars, List.mem_append,
      ← Expr.mentions_toTree, ← ih]
    simp [Tree.Kind.inner]
  | ifElse cond body other ihBody ihOther =>
    rw [Stmt.toTree, Tree.ifElse, mentions_node (by decide), Stmt.vars, List.mem_append,
      List.mem_append, ← Expr.mentions_toTree, ← ihBody, ← ihOther]
    simp [Tree.Kind.inner]
  | loop cond body ih =>
    rw [Stmt.toTree, Tree.loop, mentions_node (by decide), Stmt.vars, List.mem_append,
      ← Expr.mentions_toTree, ← ih]
    simp [Tree.Kind.inner]
  | function callee params body ih =>
    rw [Stmt.toTree, Tree.function, mentions_node (by decide), Stmt.vars, ← ih]
    simp only [Tree.Kind.inner, List.tail_cons, List.mem_append, List.mem_map, List.mem_singleton]
    constructor
    · rintro ⟨child, ⟨param, -, rfl⟩ | rfl, mentions⟩
      · exact absurd mentions Tree.not_mentions_param
      · exact mentions
    · exact fun mentions => ⟨body.toTree, .inr rfl, mentions⟩

theorem Program.mentions_toTree {program : Program} :
    program.toTree.Mentions name ↔ name ∈ program.vars := by
  rw [Program.toTree, Tree.program, mentions_node (by decide), Program.vars, List.mem_flatMap]
  simp only [Tree.Kind.inner, List.mem_map]
  constructor
  · rintro ⟨child, ⟨stmt, listed, rfl⟩, mentions⟩
    exact ⟨stmt, listed, Stmt.mentions_toTree.1 mentions⟩
  · rintro ⟨stmt, listed, mentioned⟩
    exact ⟨stmt.toTree, ⟨stmt, listed, rfl⟩, Stmt.mentions_toTree.2 mentioned⟩

mutual

theorem Expr.isName_of_mem_vars {expr : Expr} (valid : expr.isValid) (mem : name ∈ expr.vars) :
    Token.isName name := by
  match expr with
  | .num digits => cases mem
  | .var text =>
    rw [Expr.isValid] at valid
    rwa [List.mem_singleton.1 mem]
  | .binary op left right =>
    rw [Expr.isValid, Bool.and_eq_true] at valid
    rcases List.mem_append.1 mem with mem | mem
    · exact Expr.isName_of_mem_vars valid.1 mem
    · exact Expr.isName_of_mem_vars valid.2 mem
  | .call callee args =>
    rw [Expr.isValid, Bool.and_eq_true] at valid
    exact Expr.isName_of_mem_varsList valid.2 mem

theorem Expr.isName_of_mem_varsList {args : List Expr} (valid : Expr.allValid args)
    (mem : name ∈ Expr.varsList args) : Token.isName name := by
  match args with
  | [] => cases mem
  | arg :: args =>
    rw [Expr.allValid, Bool.and_eq_true] at valid
    rcases List.mem_append.1 mem with mem | mem
    · exact Expr.isName_of_mem_vars valid.1 mem
    · exact Expr.isName_of_mem_varsList valid.2 mem

end

theorem Stmt.isName_of_mem_vars {stmt : Stmt} (valid : stmt.isValid) (mem : name ∈ stmt.vars) :
    Token.isName name := by
  induction stmt with
  | assign target value =>
    rw [Stmt.isValid, Bool.and_eq_true] at valid
    rcases List.mem_cons.1 mem with rfl | mem
    · exact valid.1
    · exact Expr.isName_of_mem_vars valid.2 mem
  | print value => exact Expr.isName_of_mem_vars valid mem
  | ifThen cond body ih | loop cond body ih =>
    rw [Stmt.isValid, Bool.and_eq_true] at valid
    rcases List.mem_append.1 mem with mem | mem
    · exact Expr.isName_of_mem_vars valid.1 mem
    · exact ih valid.2 mem
  | ifElse cond body other ihBody ihOther =>
    simp only [Stmt.isValid, Bool.and_eq_true] at valid
    rcases List.mem_append.1 mem with mem | mem
    · exact Expr.isName_of_mem_vars valid.1.1 mem
    · rcases List.mem_append.1 mem with mem | mem
      · exact ihBody valid.1.2 mem
      · exact ihOther valid.2 mem
  | function callee params body ih =>
    simp only [Stmt.isValid, Bool.and_eq_true] at valid
    exact ih valid.2 mem

theorem Program.isName_of_mem_vars {program : Program} (valid : program.isValid)
    (mem : name ∈ program.vars) : Token.isName name := by
  obtain ⟨stmt, listed, mem⟩ := List.mem_flatMap.1 mem
  exact Stmt.isName_of_mem_vars (List.all_eq_true.1 valid stmt listed) mem

theorem nodup_eraseDups (names : List String) : names.eraseDups.Nodup := by
  induction size : names.length using Nat.strongRecOn generalizing names with
  | ind size ih =>
    cases names with
    | nil => exact List.nodup_nil
    | cons first rest =>
      rw [List.eraseDups_cons, List.nodup_cons, List.mem_eraseDups]
      refine ⟨by simp, ih _ ?_ _ rfl⟩
      have shorter := List.length_filter_le (fun other => !other == first) rest
      rw [List.length_cons] at size
      omega

theorem Program.mem_globals {program : Program} : name ∈ program.globals ↔ name ∈ program.vars := by
  rw [Program.globals, List.mem_mergeSort, List.mem_eraseDups]

theorem Program.pairwise_globals (program : Program) : program.globals.Pairwise (· < ·) := by
  have sorted : program.globals.Pairwise fun a b => decide (a ≤ b) = true :=
    List.pairwise_mergeSort
      (fun a b c first second => by
        simp only [decide_eq_true_eq] at first second ⊢
        exact String.le_trans first second)
      (fun a b => by simpa using String.le_total a b) _
  have distinct : program.globals.Nodup :=
    (List.mergeSort_perm _ _).nodup_iff.2 (nodup_eraseDups program.vars)
  refine (sorted.and distinct).imp fun both => ?_
  obtain ⟨le, ne⟩ := both
  exact String.not_le.1 fun ge => ne (String.le_antisymm (of_decide_eq_true le) ge)

theorem Lower.variableName_lt {a b : String} (less : a < b) : variableName a < variableName b := by
  rw [String.lt_iff, variableName_toList, variableName_toList]
  exact List.cons_lt_cons_iff.2 (.inr ⟨rfl, List.cons_lt_cons_iff.2 (.inr ⟨rfl, less⟩)⟩)

open Lower

/-- What holds of a function of the file with the given text, if it declares `locals` before its
temporaries. -/
structure Hygienic (text : String) (file : C.File) (locals : List String)
    (function : C.Function) : Prop where
  vars : ∀ name, .ident (variableName name) ∈ C.parts function.body ∨
      variableName name ∈ C.assigned function.body →
    variableName name ∈ function.params ∨ variableName name ∈ file.globals
  calls : ∀ name args, .call (functionName name) args ∈ C.parts function.body →
    (file.functions.filter fun other => other.name == functionName name).map
      (fun other => other.params.length) = [args.length]
  temps : ∃ count, C.declared function.body = locals ++ (List.range count).map tempName
  inScope : C.Stmt.AllScoped (function.params ++ file.globals) function.body
  layout : ∃ before code after,
    text = before ++ (function.signature ++ " \x7b\n" ++ code ++ "\x7d\n") ++ after ∧
      C.Closed before ∧ C.Place.scan 1 (.head 1) code.toList = some (.head 1)

/-- The statement that declares a local variable before the temporaries. -/
def Lower.start (name : String) : C.Stmt := .declare .longLong name (.int 0)

namespace Lower

theorem collect_start {α : Type} (own : C.Stmt → List α) (locals : List String) :
    C.collect own (locals.map start) = locals.flatMap fun name => own (start name) := by
  induction locals with
  | nil => rfl
  | cons name locals ih =>
    rw [List.map_cons, ← List.singleton_append, C.collect_append, C.collect_single own rfl, ih,
      List.flatMap_cons]

theorem binds_start (locals : List String) : (locals.map start).flatMap C.Stmt.binds = locals := by
  induction locals with
  | nil => rfl
  | cons name locals ih =>
    rw [List.map_cons, List.flatMap_cons, ih]
    rfl

theorem within_zero (scope : List String) : (C.Expr.int 0).Within scope := by
  intro name mem
  rw [C.Expr.parts, List.mem_singleton] at mem
  cases mem

theorem fits_zero {vars : List String} {calls : List CallSite} {scope : List String} :
    Fits vars calls scope (.int 0) := by
  refine ⟨within_zero scope, ?_, rfl, rfl⟩
  simp only [C.Expr.parts, List.mem_singleton, forall_eq]
  exact ⟨by simp, by simp⟩

theorem inScope_start (scope locals : List String) :
    C.Stmt.AllScoped scope (locals.map start) := by
  induction locals generalizing scope with
  | nil => trivial
  | cons name locals ih =>
    rw [List.map_cons, C.Stmt.AllScoped, start, C.Stmt.Scoped]
    exact ⟨within_zero scope, ih _⟩

theorem legible_start {locals : List String} (names : ∀ name ∈ locals, C.isIdentifier name) :
    C.Stmt.allLegible (locals.map start) := by
  rw [C.Stmt.allLegible_iff]
  intro stmt mem
  obtain ⟨name, listed, rfl⟩ := List.mem_map.1 mem
  rw [start, C.Stmt.isLegible, names name listed]
  rfl

theorem temps_zero (count : Nat) : temps 0 count = (List.range count).map tempName := by
  rw [temps, Nat.sub_zero, List.range_eq_range']

theorem mem_globals_lower {linked : Linked} {text : String} :
    text ∈ linked.lower.globals ↔ ∃ name ∈ linked.program.vars, text = variableName name := by
  rw [Linked.lower, List.mem_map]
  simp only [Program.mem_globals, eq_comm]

end Lower

theorem filter_eq_singleton {α : Type} {key : α → String} {list : List α} {a : α}
    (distinct : (list.map key).Nodup) (listed : a ∈ list) :
    list.filter (fun other => key other == key a) = [a] := by
  induction list with
  | nil => cases listed
  | cons first rest ih =>
    rw [List.map_cons, List.nodup_cons] at distinct
    rcases List.mem_cons.1 listed with rfl | listed
    · rw [List.filter_cons_of_pos (by simp), List.filter_eq_nil_iff.2]
      intro other mem same
      exact distinct.1 (List.mem_map.2 ⟨other, mem, by simpa using same⟩)
    · rw [List.filter_cons_of_neg, ih distinct.2 listed]
      intro same
      exact distinct.1 (List.mem_map.2 ⟨a, listed, (by simpa using same : key first = key a).symm⟩)

namespace Linked.Sound

variable {linked : Linked}

theorem nodup_names (sound : linked.Sound) :
    (linked.lower.functions.map C.Function.name).Nodup := by
  have names : ((linked.table.declarations.map Declaration.name).map functionName).Nodup :=
    List.Pairwise.map functionName (fun _ _ ne same => ne (functionName_inj.1 same))
      sound.distinct.names
  rw [List.map_map] at names
  rw [Linked.lower, List.map_map]
  exact names

theorem functions_of_call (sound : linked.Sound) {site : CallSite}
    (called : site ∈ linked.program.calls) :
    (linked.lower.functions.filter fun other => other.name == functionName site.callee).map
      (fun other => other.params.length) = [site.argCount] := by
  obtain ⟨declaration, resolved⟩ := sound.resolved site called
  obtain ⟨found, count⟩ := Table.resolve_eq_ok resolved
  obtain ⟨listed, same⟩ := Table.get?_eq_some found
  have isOne : declaration.lower ∈ linked.lower.functions :=
    List.mem_map.2 ⟨declaration, listed, rfl⟩
  have only := filter_eq_singleton sound.nodup_names isOne
  have named : declaration.lower.name = functionName site.callee := congrArg functionName same
  rw [named] at only
  rw [only, List.map_singleton, Declaration.lower, List.length_map, count]

theorem tidy_function (sound : linked.Sound) {declaration : Declaration Stmt}
    (listed : declaration ∈ linked.table.declarations) :
    ∃ code count, declaration.lower.body = [resultName].map start ++ code ∧
      Tidy linked.program.vars linked.program.calls
        ([resultName] ++ (declaration.lower.params ++ linked.lower.globals)) 0 count code := by
  rcases lowered : declaration.body.lower true 0 with ⟨code, count⟩
  have known : ∀ name ∈ linked.program.vars, variableName name ∈
      [resultName] ++ (declaration.lower.params ++ linked.lower.globals) :=
    fun name mentioned => List.mem_append_right _
      (List.mem_append_right _ (mem_globals_lower.2 ⟨name, mentioned, rfl⟩))
  have kept : resultName ∈ [resultName] ++ (declaration.lower.params ++ linked.lower.globals) :=
    List.mem_append_left _ (List.mem_singleton.2 rfl)
  have tidy := Stmt.lower_tidy lowered (sound.valid_of_declared listed).body
    (sound.vars_of_declared listed) (sound.calls_of_declared listed) known fun _ => kept
  refine ⟨code ++ [.ret (.ident resultName)], count, ?_,
    tidy.append (tidy_ret count (fits_result (List.mem_append_right _ kept)))⟩
  rw [Declaration.lower, lowered, List.append_assoc]
  rfl

theorem tidy_main (sound : linked.Sound) :
    ∃ code count, linked.lower.main.body = [].map start ++ code ∧
      Tidy linked.program.vars linked.program.calls
        ([] ++ (linked.lower.main.params ++ linked.lower.globals)) 0 count code := by
  rcases lowered : Stmt.lowerAll false linked.program.statements 0 with ⟨code, count⟩
  have known : ∀ name ∈ linked.program.vars, variableName name ∈
      [] ++ (linked.lower.main.params ++ linked.lower.globals) :=
    fun name mentioned => mem_globals_lower.2 ⟨name, mentioned, rfl⟩
  have tidy := Stmt.lowerAll_tidy lowered (List.all_eq_true.1 sound.valid)
    (fun stmt listed _ mem => List.mem_flatMap.2 ⟨stmt, listed, mem⟩)
    (fun stmt listed _ mem => List.mem_flatMap.2 ⟨stmt, listed, mem⟩) known
    (fun keeps => nomatch keeps)
  refine ⟨code ++ [.ret (.int 0)], count, ?_, tidy.append (tidy_ret count fits_zero)⟩
  rw [Linked.lower, lowered]
  rfl

theorem legible_function (sound : linked.Sound) {declaration : Declaration Stmt}
    (listed : declaration ∈ linked.table.declarations) : declaration.lower.isLegible := by
  obtain ⟨code, count, body, tidy⟩ := sound.tidy_function listed
  have valid := sound.valid_of_declared listed
  simp only [C.Function.isLegible, Bool.and_eq_true, List.all_eq_true]
  refine ⟨⟨isIdentifier_functionName valid.name, ?_⟩, ?_⟩
  · intro param mem
    obtain ⟨name, named, rfl⟩ := List.mem_map.1 mem
    exact isIdentifier_variableName (valid.params name named)
  · rw [body]
    exact C.Stmt.allLegible_append (legible_start (by decide)) tidy.legible

theorem legible (sound : linked.Sound) : linked.lower.Legible where
  headers := by
    have plain : ∀ header ∈ C.Prelude.headers, header.toList.all C.File.isHeaderChar := by decide
    exact plain
  prelude := by
    have legible : ∀ function ∈ C.Prelude.functions, function.isLegible ∧ function.isStatic := by
      decide
    exact legible
  globals := by
    intro text mem
    obtain ⟨name, mentioned, rfl⟩ := mem_globals_lower.1 mem
    exact isIdentifier_variableName (Program.isName_of_mem_vars sound.valid mentioned)
  functions := by
    intro function mem
    obtain ⟨declaration, listed, rfl⟩ := List.mem_map.1 mem
    exact ⟨sound.legible_function listed, rfl⟩
  main := by
    obtain ⟨code, count, body, tidy⟩ := sound.tidy_main
    refine ⟨?_, rfl, rfl⟩
    have named : C.isIdentifier "main" && [].all C.isIdentifier := by decide
    have legible := C.Stmt.allLegible_append (legible_start (List.forall_mem_nil _)) tidy.legible
    rw [C.Function.isLegible, body]
    exact Bool.and_eq_true_iff.2 ⟨named, legible⟩

theorem hygienic (sound : linked.Sound) {locals : List String} {function : C.Function}
    {code : List C.Stmt} {count : Nat} (listed : function ∈ linked.lower.definitions)
    (body : function.body = locals.map start ++ code)
    (tidy : Tidy linked.program.vars linked.program.calls
      (locals ++ (function.params ++ linked.lower.globals)) 0 count code) :
    Hygienic linked.lower.render linked.lower locals function where
  vars := by
    have isGlobal : ∀ name ∈ linked.program.vars, variableName name ∈ linked.lower.globals :=
      fun name mentioned => mem_globals_lower.2 ⟨name, mentioned, rfl⟩
    rintro name (read | set)
    · rw [body, C.parts, C.collect_append, collect_start] at read
      rcases List.mem_append.1 read with read | read
      · obtain ⟨other, -, same⟩ := List.mem_flatMap.1 read
        simp [start, C.Stmt.exprs, C.Expr.partsAll, C.Expr.parts] at same
      · exact .inr (isGlobal name ((tidy.parts _ read).idents name rfl))
    · rw [body, C.assigned, C.collect_append, collect_start] at set
      rcases List.mem_append.1 set with set | set
      · obtain ⟨other, -, same⟩ := List.mem_flatMap.1 set
        cases same
      · exact .inr (isGlobal name (tidy.assigned name set))
  calls := by
    intro name args called
    rw [body, C.parts, C.collect_append, collect_start] at called
    rcases List.mem_append.1 called with called | called
    · obtain ⟨other, -, same⟩ := List.mem_flatMap.1 called
      simp [start, C.Stmt.exprs, C.Expr.partsAll, C.Expr.parts] at same
    · exact sound.functions_of_call ((tidy.parts _ called).functions name args rfl)
  temps := by
    refine ⟨count, ?_⟩
    have own : (locals.flatMap fun name => (start name).binds) = locals := by
      rw [← List.flatMap_map, binds_start]
    rw [body, C.declared, C.collect_append, collect_start, own, ← C.declared, tidy.declared,
      temps_zero]
  inScope := by
    rw [body]
    refine (inScope_start _ locals).append ?_
    rw [binds_start]
    exact tidy.inScope
  layout := sound.legible.exists_code listed

end Linked.Sound

namespace Lower

def opening (name : String) : String := "long long " ++ name ++ "("

theorem opening_toList (name : String) :
    (opening name).toList = "long long ".toList ++ (name.toList ++ ['(']) := by
  rw [opening, String.toList_append, String.toList_append, List.append_assoc]
  rfl

theorem eq_of_bracket {first second rest : List Char} (plain : '(' ∉ first) (others : '(' ∉ second)
    (found : first ++ ['('] <+: second ++ '(' :: rest) : first = second := by
  induction first generalizing second with
  | nil =>
    cases second with
    | nil => rfl
    | cons char second =>
      obtain ⟨same, -⟩ := List.cons_prefix_cons.1 found
      exact absurd (same ▸ List.mem_cons_self) others
  | cons char first ih =>
    cases second with
    | nil =>
      obtain ⟨same, -⟩ := List.cons_prefix_cons.1 found
      exact absurd (same ▸ List.mem_cons_self) plain
    | cons other second =>
      obtain ⟨same, behind⟩ := List.cons_prefix_cons.1 found
      rw [same, ih (fun mem => plain (List.mem_cons_of_mem _ mem))
        (fun mem => others (List.mem_cons_of_mem _ mem)) behind]

theorem bracket_not_mem {name : String} (isName : Token.isName name) :
    '(' ∉ (functionName name).toList := by
  rw [functionName_toList]
  intro mem
  simp only [List.mem_cons, Char.reduceEq, false_or] at mem
  exact absurd (isAlphanum_of_isName isName _ mem) (by decide)

theorem signature_toList (declaration : Declaration Stmt) (rest : String) : ∃ params,
    (declaration.lower.signature ++ rest).toList =
      "long long ".toList ++ ((functionName declaration.name).toList ++ '(' :: params) := by
  refine ⟨(C.Function.renderParams declaration.lower.params).toList ++ (')' :: rest.toList), ?_⟩
  simp [C.Function.signature, Declaration.lower, C.Ty.render]

theorem begins_signature {a b : Declaration Stmt} {rest : String} (first : Token.isName a.name)
    (second : Token.isName b.name) :
    C.begins (opening a.lower.name) (b.lower.signature ++ rest) =
      (b.lower.name == a.lower.name) := by
  obtain ⟨params, chars⟩ := signature_toList b rest
  rw [Bool.eq_iff_iff, C.begins_iff, beq_iff_eq, opening_toList, chars,
    List.prefix_append_right_inj]
  constructor
  · intro found
    exact String.toList_injective
      (eq_of_bracket (bracket_not_mem first) (bracket_not_mem second) found).symm
  · intro same
    refine ⟨params, ?_⟩
    rw [← same, List.append_assoc]
    rfl

theorem solid_opening {name : String} (isName : Token.isName name) :
    C.Solid (opening (functionName name)) := by
  have named : C.Plain (functionName name) :=
    C.plain_of_isWord (C.isWord_of_isIdentifier (isIdentifier_functionName isName))
  exact (C.Solid.append (by decide) named).append (by decide)

theorem filter_of_head {name : String} {texts : List String}
    (heads : ∀ text ∈ texts, text.toList.head? ≠ some 'l') :
    texts.filter (C.begins (opening name)) = [] := by
  have first : (opening name).toList.head? = some 'l' := by
    rw [opening_toList]
    rfl
  exact List.filter_eq_nil_iff.2 fun text mem found => heads text mem (C.head_of_begins found first)

theorem not_begins_global (name source : String) :
    C.begins (opening (functionName name)) ("long long " ++ variableName source ++ " = 0;") =
      false := by
  rw [Bool.eq_false_iff, Ne, C.begins_iff, opening_toList, String.toList_append,
    String.toList_append,
    List.append_assoc, List.prefix_append_right_inj, functionName_toList, variableName_toList]
  intro found
  exact absurd (List.cons_prefix_cons.1 found).1 (by decide)

end Lower

namespace Linked.Sound

variable {linked : Linked}

theorem filter_signatures (sound : linked.Sound) {declaration : Declaration Stmt}
    (listed : declaration ∈ linked.table.declarations) (rest : String) :
    (linked.lower.functions.map fun function => function.signature ++ rest).filter
      (C.begins (opening (functionName declaration.name))) =
        [declaration.lower.signature ++ rest] := by
  have isOne : declaration.lower ∈ linked.lower.functions :=
    List.mem_map.2 ⟨declaration, listed, rfl⟩
  have only := filter_eq_singleton sound.nodup_names isOne
  have same : linked.lower.functions.filter (C.begins (opening (functionName declaration.name)) ∘
      fun function => function.signature ++ rest) = [declaration.lower] := by
    rw [← only]
    refine List.filter_congr fun function mem => ?_
    obtain ⟨other, found, rfl⟩ := List.mem_map.1 mem
    exact begins_signature (sound.valid_of_declared listed).name
      (sound.valid_of_declared found).name
  rw [List.filter_map, same, List.map_singleton]

theorem linesWith_opening (sound : linked.Sound) {declaration : Declaration Stmt}
    (listed : declaration ∈ linked.table.declarations) :
    C.linesWith (opening (functionName declaration.name)) linked.lower.render =
      [declaration.lower.signature ++ ";", declaration.lower.signature ++ " \x7b"] := by
  have headers : ∀ text ∈ linked.lower.headers.map fun header => "#include <" ++ header ++ ">",
      text.toList.head? ≠ some 'l' := by
    simp
  have prelude : ∀ text ∈ linked.lower.prelude.map fun function => function.signature ++ " \x7b",
      text.toList.head? ≠ some 'l' := by
    have static : ∀ text ∈ C.Prelude.functions.map fun function => function.signature ++ " \x7b",
        text.toList.head? ≠ some 'l' := by decide
    exact static
  have main : ∀ text ∈ [linked.lower.main.signature ++ " \x7b"], text.toList.head? ≠ some 'l' := by
    have line : ∀ text ∈ ["int main(void) \x7b"], text.toList.head? ≠ some 'l' := by decide
    exact line
  have globals : (linked.lower.globals.map fun name => "long long " ++ name ++ " = 0;").filter
      (C.begins (opening (functionName declaration.name))) = [] := by
    refine List.filter_eq_nil_iff.2 fun text mem => ?_
    obtain ⟨name, mentioned, rfl⟩ := List.mem_map.1 mem
    obtain ⟨source, -, rfl⟩ := mem_globals_lower.1 mentioned
    exact Bool.eq_false_iff.1 (not_begins_global declaration.name source)
  rw [sound.legible.linesWith_render (solid_opening (sound.valid_of_declared listed).name),
    C.File.outline]
  simp only [List.filter_append, filter_of_head headers, filter_of_head prelude, globals,
    sound.filter_signatures listed, filter_of_head main, List.nil_append, List.append_nil,
    List.singleton_append]

end Linked.Sound

/-- What holds of the text that is generated for a tree and of the file that it is read as. -/
structure WellScoped (tree : Tree) (text : String) (file : C.File) : Prop where
  functions : ∀ function ∈ file.functions, Hygienic text file [resultName] function
  main : Hygienic text file [] file.main
  heads : ∀ function ∈ file.functions, C.linesWith (opening function.name) text =
    [function.signature ++ ";", function.signature ++ " \x7b"]
  sorted : file.globals.Pairwise (· < ·)
  globals : ∀ text, text ∈ file.globals ↔ ∃ name, tree.Mentions name ∧ text = variableName name
  names : (∀ function ∈ file.functions, NameClass.ofFunction.Has function.name) ∧
    (∀ function ∈ file.prelude, NameClass.ofRuntime.Has function.name) ∧
    NameClass.ofMain.Has file.main.name
  closed : C.Closed text

theorem Linked.Sound.wellScoped {linked : Linked} (sound : linked.Sound) :
    WellScoped linked.program.toTree linked.lower.render linked.lower where
  functions := by
    intro function mem
    obtain ⟨declaration, listed, rfl⟩ := List.mem_map.1 mem
    obtain ⟨code, count, body, tidy⟩ := sound.tidy_function listed
    exact sound.hygienic (List.mem_append_left _ mem) body tidy
  main := by
    obtain ⟨code, count, body, tidy⟩ := sound.tidy_main
    exact sound.hygienic (List.mem_append_right _ (List.mem_singleton.2 rfl)) body tidy
  heads := by
    intro function mem
    obtain ⟨declaration, listed, rfl⟩ := List.mem_map.1 mem
    exact sound.linesWith_opening listed
  sorted := by
    rw [Linked.lower]
    exact List.Pairwise.map variableName (fun _ _ => variableName_lt)
      linked.program.pairwise_globals
  globals := by
    intro text
    simp only [mem_globals_lower, Program.mentions_toTree]
  names := by
    refine ⟨?_, ?_, rfl⟩
    · intro function mem
      obtain ⟨declaration, -, rfl⟩ := List.mem_map.1 mem
      exact ⟨declaration.name, rfl⟩
    · simp only [Linked.lower, C.Prelude.functions, List.forall_mem_cons]
      exact ⟨⟨"add", rfl⟩, ⟨"sub", rfl⟩, ⟨"mul", rfl⟩, ⟨"div", rfl⟩, ⟨"print", rfl⟩,
        List.forall_mem_nil _⟩
  closed := sound.legible.closed

/-- The text generated for a tree can be read, and the file that it is read as is well scoped. Its
names cannot be mistaken for each other: those of different classes differ, and so do those of
different sources. -/
theorem Tree.generate_wellScoped {tree : Tree} {text : String} (done : tree.generate = .ok text) :
    (∃ file, C.File.ofText? text = some file ∧ tree.lower = .ok file ∧
      WellScoped tree text file) ∧
      (∀ a b name, NameClass.Has a name → NameClass.Has b name → a = b) ∧
      Function.Injective variableName ∧ Function.Injective functionName ∧
      Function.Injective tempName := by
  refine ⟨?_, fun a b name => NameClass.eq_of_has, fun _ _ => variableName_inj.1,
    fun _ _ => functionName_inj.1, fun _ _ => tempName_inj.1⟩
  obtain ⟨linked, link, lowered, rfl⟩ := Tree.generate_eq_ok done
  obtain ⟨rfl, sound⟩ := Linked.ofTree_eq_ok link
  exact ⟨linked.lower, sound.legible.ofText?_render, lowered, sound.wellScoped⟩

/-- A program with a function that is declared in a loop and called before it. -/
theorem Tree.generate_wellScoped_loop :
    let tree := Program.toTree ⟨[.assign "x" (.call "f" [.var "y"]),
      .loop (.binary (.rel .lt) (.var "x") (.num "9"))
        (.function "f" ["y"] (.assign "x" (.var "y")))]⟩
    ∃ text file, tree.generate = .ok text ∧ C.File.ofText? text = some file ∧
      WellScoped tree text file ∧ "v_y" ∈ file.globals := by
  intro tree
  have generated : tree.generate = .ok _ := rfl
  obtain ⟨⟨file, read, -, inOrder⟩, -⟩ := Tree.generate_wellScoped generated
  refine ⟨_, file, generated, read, inOrder, (inOrder.globals "v_y").2 ⟨"y", ?_, rfl⟩⟩
  exact Program.mentions_toTree.2 (by decide)

end ImpToC
