import ImpToC.Source
import ImpToC.Proofs.Lexemes
import ImpToC.Proofs.Parsing
import ImpToC.Proofs.Resolution

/-! Parsed trees are well formed up to spelling. No name or numeral is lost between the tokens
and the tree: the leaves of the tree carry the texts of the tokens, in the same order. The
reader of trees finds nothing else to object to in the encoding of a program, so it accepts a
parsed tree exactly if every name and every numeral among the tokens is well spelled, and
otherwise objects to the first that is not. The scanner gives well-spelled tokens only. -/
namespace ImpToC

theorem Token.isName_iff {text : String} : Token.isName text ↔ Token.IsWord text.toList := by
  unfold Token.isName Token.IsWord
  cases text.toList with
  | nil => simp
  | cons c rest =>
    simp only [Token.isNameStart, Token.isNamePart, Bool.and_eq_true, List.all_eq_true]
    constructor
    · exact fun ⟨start, parts⟩ => ⟨c, rest, rfl, start, parts⟩
    · rintro ⟨_, _, ⟨⟩, start, parts⟩
      exact ⟨start, parts⟩

/-- The token carries a text where it should, and the text is well spelled. -/
structure Token.WellSpelled (token : Token) : Prop where
  name : token.kind = .ident → ∃ text, token.text? = some text ∧ Token.IsWord text.toList
  number : token.kind = .num → ∃ n, n ≤ Decimal.maxValue ∧ token.text? = some (toString n)

def Tree.Value.WellSpelled : Tree.Value → Prop
  | name text => Token.IsWord text.toList
  | number digits => ∃ n, n ≤ Decimal.maxValue ∧ digits = toString n
  | operator _ => True

def Token.value? (token : Token) : Option Tree.Value :=
  match token.kind with
  | .ident => some (.name token.text)
  | .num => some (.number token.text)
  | _ => none

theorem Token.value?_of_kind {token : Token} {kind : Token.Kind} (isKind : token.kind = kind)
    (other : kind ≠ .ident ∧ kind ≠ .num) : token.value? = none := by
  unfold Token.value?
  split
  · rename_i same
    exact absurd (isKind.symm.trans same) other.1
  · rename_i same
    exact absurd (isKind.symm.trans same) other.2
  · rfl

theorem Token.wellSpelled_iff {token : Token} :
    token.WellSpelled ↔ ∀ value ∈ token.value?, value.WellSpelled := by
  obtain ⟨kind, text?⟩ := token
  by_cases isName : kind = .ident
  · subst isName
    have only : WellSpelled ⟨.ident, text?⟩ ↔ ∃ text, text? = some text ∧ IsWord text.toList :=
      ⟨fun spelled => spelled.name rfl, fun spelled => ⟨fun _ => spelled, nofun⟩⟩
    rw [only]
    cases text? with
    | none => simp [value?, text, Tree.Value.WellSpelled, IsWord]
    | some text => simp [value?, Token.text, Tree.Value.WellSpelled]
  · by_cases isNum : kind = .num
    · subst isNum
      have only : WellSpelled ⟨.num, text?⟩ ↔
          ∃ n, n ≤ Decimal.maxValue ∧ text? = some (toString n) :=
        ⟨fun spelled => spelled.number rfl, fun spelled => ⟨nofun, fun _ => spelled⟩⟩
      rw [only]
      cases text? with
      | none => simp [value?, text, Tree.Value.WellSpelled]
      | some text => simp [value?, Token.text, Tree.Value.WellSpelled]
    · rw [value?_of_kind rfl ⟨isName, isNum⟩]
      simp only [Option.not_mem_none, false_implies, implies_true, iff_true]
      exact ⟨fun same => absurd same isName, fun same => absurd same isNum⟩

namespace Tree

def Kind.isLeaf (kind : Kind) : Bool := kind == .num || kind == .ident || kind == .param

/-- The names and numerals in some trees, in the order they stand in. -/
def leavesList (trees : List Tree) : List Tree := selectList Kind.isLeaf trees

def leaves (tree : Tree) : List Tree := tree.select Kind.isLeaf

@[simp] theorem leavesList_nil : leavesList [] = [] := rfl

@[simp] theorem leavesList_cons (tree : Tree) (trees : List Tree) :
    leavesList (tree :: trees) = tree.leaves ++ leavesList trees := selectList_cons tree trees

@[simp] theorem leavesList_append (first second : List Tree) :
    leavesList (first ++ second) = leavesList first ++ leavesList second :=
  selectList_append first second

theorem leaves_node (kind : Kind) (value? : Option Value) (children : List Tree) :
    leaves (node kind value? children) =
      (if kind.isLeaf then [node kind value? children] else []) ++ leavesList children :=
  select_node kind value? children

@[simp] theorem value?_num (digits : String) : (num digits).value? = some (.number digits) := rfl

@[simp] theorem value?_ident (text : String) : (ident text).value? = some (.name text) := rfl

@[simp] theorem value?_param (text : String) : (param text).value? = some (.name text) := rfl

@[simp] theorem leaves_num (digits : String) : leaves (num digits) = [num digits] := rfl

@[simp] theorem leaves_ident (text : String) : leaves (ident text) = [ident text] := rfl

@[simp] theorem leaves_param (text : String) : leaves (param text) = [param text] := rfl

@[simp] theorem leaves_binary (kind : Token.Kind) (left right : Tree) :
    leaves (binary kind left right) = left.leaves ++ right.leaves := by
  simp [binary, leaves_node, Kind.isLeaf]

@[simp] theorem leaves_call (callee : String) (args : List Tree) :
    leaves (call callee args) = ident callee :: leavesList args := by
  simp [call, leaves_node, Kind.isLeaf]

@[simp] theorem leaves_assign (target : String) (value : Tree) :
    leaves (assign target value) = ident target :: value.leaves := by
  simp [assign, leaves_node, Kind.isLeaf]

@[simp] theorem leaves_print (value : Tree) : leaves (print value) = value.leaves := by
  simp [print, leaves_node, Kind.isLeaf]

@[simp] theorem leaves_ifThen (cond body : Tree) :
    leaves (ifThen cond body) = cond.leaves ++ body.leaves := by
  simp [ifThen, leaves_node, Kind.isLeaf]

@[simp] theorem leaves_ifElse (cond body other : Tree) :
    leaves (ifElse cond body other) = cond.leaves ++ (body.leaves ++ other.leaves) := by
  simp [ifElse, leaves_node, Kind.isLeaf]

@[simp] theorem leaves_loop (cond body : Tree) :
    leaves (loop cond body) = cond.leaves ++ body.leaves := by
  simp [loop, leaves_node, Kind.isLeaf]

@[simp] theorem leaves_function (name : String) (parts : List Tree) :
    leaves (node .function none (ident name :: parts)) = ident name :: leavesList parts := by
  simp [leaves_node, Kind.isLeaf]

@[simp] theorem leaves_program (statements : List Tree) :
    leaves (program statements) = leavesList statements := by
  simp [program, leaves_node, Kind.isLeaf]

def misspelling? : Tree → Option ShapeError
  | node kind (some (.name text)) _ =>
    if Token.isName text then none else some (.invalidName kind text)
  | node _ (some (.number digits)) _ =>
    if Decimal.isCanonical digits then none else some (.invalidNumber digits)
  | _ => none

theorem misspelling?_eq_none_iff {tree : Tree} :
    tree.misspelling? = none ↔ ∀ value ∈ tree.value?, value.WellSpelled := by
  obtain ⟨kind, value?, children⟩ := tree
  match value? with
  | none => simp [misspelling?, Tree.value?]
  | some (.name text) =>
    simp [misspelling?, Tree.value?, Value.WellSpelled, Token.isName_iff]
  | some (.number digits) =>
    simp [misspelling?, Tree.value?, Value.WellSpelled, Decimal.isCanonical_iff]
  | some (.operator op) => simp [misspelling?, Tree.value?, Value.WellSpelled]

/-- Passes with `a` if the leaves are well spelled, else gives the fault of the first that is
not. -/
def verdict {α : Type} (leaves : List Tree) (a : α) : Except ShapeError α :=
  match leaves.findSome? misspelling? with
  | none => .ok a
  | some fault => .error fault

theorem verdict_bind {α β : Type} {first second : List Tree} {a : α} {b : β}
    {next : α → Except ShapeError β} (rest : next a = verdict second b) :
    (verdict first a >>= next) = verdict (first ++ second) b := by
  unfold verdict
  rw [List.findSome?_append]
  cases first.findSome? misspelling? with
  | none => exact rest
  | some fault => rfl

theorem verdict_leaf_bind {α β : Type} {leaf : Tree} {second : List Tree} {a : α} {b : β}
    {next : α → Except ShapeError β} (rest : next a = verdict second b) :
    (verdict [leaf] a >>= next) = verdict (leaf :: second) b := verdict_bind rest

theorem leafName_eq_verdict (kind : Kind) (text : String) :
    leafName kind (some (.name text)) [] = verdict [node kind (some (.name text)) []] text := by
  simp only [leafName, verdict, List.findSome?_singleton, misspelling?, List.length_nil, if_true]
  split <;> rfl

theorem leafNumber_eq_verdict (digits : String) :
    leafNumber (some (.number digits)) [] = verdict [num digits] digits := by
  simp only [leafNumber, verdict, List.findSome?_singleton, misspelling?, num, List.length_nil,
    if_true]
  split <;> rfl

theorem childName_eq_verdict (parent : Kind) (index : Nat) (kind : Kind) (text : String) :
    childName parent index kind (node kind (some (.name text)) []) =
      verdict [node kind (some (.name text)) []] text := by
  rw [childName, if_pos rfl, leafName_eq_verdict]

end Tree

open ImpToC.Tree (verdict verdict_bind verdict_leaf_bind leaves leavesList)

theorem Except.bind_pure_verdict {α β : Type} {leaves : List Tree} {a : α} {f : α → β} :
    (verdict leaves a >>= fun a => pure (f a)) = verdict leaves (f a) := by
  unfold verdict
  cases leaves.findSome? Tree.misspelling? <;> rfl

mutual

theorem Expr.ofTree_toTree (parent : Tree.Kind) (index : Nat) (expr : Expr) :
    Expr.ofTree parent index expr.toTree = verdict expr.toTree.leaves expr := by
  match expr with
  | .num digits =>
    rw [Expr.toTree, Tree.leaves_num, Tree.num, Expr.ofTree, Tree.leafNumber_eq_verdict]
    exact Except.bind_pure_verdict
  | .var name =>
    rw [Expr.toTree, Tree.leaves_ident, Tree.ident, Expr.ofTree, Tree.leafName_eq_verdict]
    exact Except.bind_pure_verdict
  | .binary op left right =>
    rw [Expr.toTree, Tree.leaves_binary, Tree.binary, Expr.ofTree]
    simp only [Operator.operator?_kind]
    rw [Expr.ofTree_toTree .binary 0 left, Expr.ofTree_toTree .binary 1 right]
    exact verdict_bind Except.bind_pure_verdict
  | .call callee args =>
    rw [Expr.toTree, Tree.leaves_call, Tree.call, Expr.ofTree]
    simp only [Tree.noValue]
    rw [Tree.ident, Tree.childName_eq_verdict, Expr.ofTrees_toTrees 1 args]
    exact verdict_leaf_bind Except.bind_pure_verdict

theorem Expr.ofTrees_toTrees (index : Nat) (args : List Expr) :
    Expr.ofTrees index (Expr.toTrees args) = verdict (leavesList (Expr.toTrees args)) args := by
  match args with
  | [] =>
    rw [Expr.toTrees, Expr.ofTrees]
    rfl
  | arg :: args =>
    rw [Expr.toTrees, Tree.leavesList_cons, Expr.ofTrees, Expr.ofTree_toTree .call index arg,
      Expr.ofTrees_toTrees (index + 1) args]
    exact verdict_bind Except.bind_pure_verdict

end

theorem Stmt.ofParts_toTrees {index : Nat} {params : List String} {body : Stmt}
    (inner : ∀ index, Stmt.ofTree .function index body.toTree = verdict body.toTree.leaves body) :
    Stmt.ofParts index (params.map Tree.param ++ [body.toTree]) =
      verdict (leavesList (params.map Tree.param ++ [body.toTree])) (params, body) := by
  induction params generalizing index with
  | nil =>
    rw [List.map_nil, List.nil_append, Stmt.ofParts, inner, Tree.leavesList_cons,
      Tree.leavesList_nil, List.append_nil]
    exact Except.bind_pure_verdict
  | cons param params ih =>
    obtain ⟨next, others, same⟩ : ∃ next others,
        params.map Tree.param ++ [body.toTree] = next :: others := by
      cases params <;> exact ⟨_, _, rfl⟩
    rw [List.map_cons, List.cons_append, Tree.leavesList_cons, Tree.leaves_param]
    rw [same, Stmt.ofParts, ← same, ih, Tree.param, Tree.childName_eq_verdict]
    · exact verdict_bind Except.bind_pure_verdict
    · exact List.cons_ne_nil next others

theorem Stmt.ofTree_toTree (parent : Tree.Kind) (index : Nat) (stmt : Stmt) :
    Stmt.ofTree parent index stmt.toTree = verdict stmt.toTree.leaves stmt := by
  induction stmt generalizing parent index with
  | assign target value =>
    rw [Stmt.toTree, Tree.leaves_assign, Tree.assign, Stmt.ofTree]
    simp only [Tree.noValue]
    rw [Tree.ident, Tree.childName_eq_verdict, Expr.ofTree_toTree]
    exact verdict_leaf_bind Except.bind_pure_verdict
  | print value =>
    rw [Stmt.toTree, Tree.leaves_print, Tree.print, Stmt.ofTree]
    simp only [Tree.noValue]
    rw [Expr.ofTree_toTree]
    exact Except.bind_pure_verdict
  | ifThen cond body ih =>
    rw [Stmt.toTree, Tree.leaves_ifThen, Tree.ifThen, Stmt.ofTree]
    simp only [Tree.noValue]
    rw [Expr.ofTree_toTree, ih]
    exact verdict_bind Except.bind_pure_verdict
  | ifElse cond body other ihBody ihOther =>
    rw [Stmt.toTree, Tree.leaves_ifElse, Tree.ifElse, Stmt.ofTree]
    simp only [Tree.noValue]
    rw [Expr.ofTree_toTree, ihBody, ihOther]
    exact verdict_bind (verdict_bind Except.bind_pure_verdict)
  | loop cond body ih =>
    rw [Stmt.toTree, Tree.leaves_loop, Tree.loop, Stmt.ofTree]
    simp only [Tree.noValue]
    rw [Expr.ofTree_toTree, ih]
    exact verdict_bind Except.bind_pure_verdict
  | function name params body ih =>
    have some : (params.map Tree.param ++ [body.toTree]).length ≠ 0 := by simp
    rw [Stmt.toTree, Tree.function, Tree.leaves_function, Stmt.ofTree]
    simp only [Tree.noValue, if_neg some]
    rw [Tree.ident, Tree.childName_eq_verdict, Stmt.ofParts_toTrees fun index => ih .function index]
    exact verdict_leaf_bind Except.bind_pure_verdict

theorem Program.ofStatements_toTrees (index : Nat) (stmts : List Stmt) :
    Program.ofStatements index (stmts.map Stmt.toTree) =
      verdict (leavesList (stmts.map Stmt.toTree)) stmts := by
  induction stmts generalizing index with
  | nil => rfl
  | cons stmt stmts ih =>
    rw [List.map_cons, Tree.leavesList_cons, Program.ofStatements, Stmt.ofTree_toTree, ih]
    exact verdict_bind Except.bind_pure_verdict

/-- The encoding of a program reads back as the program, unless a text in it is misspelled. -/
theorem Program.ofTree_toTree (program : Program) :
    Program.ofTree program.toTree = verdict program.toTree.leaves program := by
  rw [Program.toTree, Tree.leaves_program, Program.ofTree]
  simp only [Tree.program, Tree.kind, if_true, Tree.noValue, Tree.value?, Tree.children]
  rw [Program.ofStatements_toTrees]
  exact Except.bind_pure_verdict

def Phrase.leaves : (phrase : Phrase) → phrase.Nodes → List Tree
  | statements | parameters | parameterList | arguments | argumentList => leavesList
  | program | statement | condition | expr | term | factor => Tree.leaves

theorem Derives.values_eq {phrase : Phrase} {tokens rest : List Token} {nodes : phrase.Nodes}
    (derives : Derives phrase tokens nodes rest) :
    tokens.filterMap Token.value? =
      (phrase.leaves nodes).filterMap Tree.value? ++ rest.filterMap Token.value? := by
  induction derives with
  | exprFold first isOp second ihFirst ihSecond =>
    rcases isOp with isOp | isOp <;> simp_all [Phrase.leaves, Token.value?]
  | termFold first isOp second ihFirst ihSecond =>
    rcases isOp with isOp | isOp <;> simp_all [Phrase.leaves, Token.value?]
  | _ => simp_all [Phrase.leaves, Token.value?]

theorem Program.values_of_ofTokens {tokens : List Token} {program : Program}
    (read : ofTokens tokens = .ok program) :
    tokens.filterMap Token.value? = program.toTree.leaves.filterMap Tree.value? := by
  simpa [Phrase.leaves] using (derives_of_ofTokens read).values_eq

def ShapeError.Quotes (fault : ShapeError) (token : Token) : Prop :=
  (token.kind = .ident ∧ ∃ kind, fault = .invalidName kind token.text) ∨
    (token.kind = .num ∧ fault = .invalidNumber token.text)

theorem ShapeError.quotes_of_misspelling {tree : Tree} {token : Token} {fault : ShapeError}
    {value : Tree.Value} (inTree : tree.value? = some value) (inToken : token.value? = some value)
    (found : tree.misspelling? = some fault) : fault.Quotes token := by
  obtain ⟨kind, value?, children⟩ := tree
  cases inTree
  obtain ⟨tokenKind, text?⟩ := token
  unfold Token.value? at inToken
  split at inToken
  · rename_i isName
    cases inToken
    rw [Tree.misspelling?] at found
    split at found <;> cases found
    exact .inl ⟨isName, kind, rfl⟩
  · rename_i isNum
    cases inToken
    rw [Tree.misspelling?] at found
    split at found <;> cases found
    exact .inr ⟨isNum, rfl⟩
  · cases inToken

/-- The tokens have a first that is misspelled, and the fault is about that. -/
def ShapeError.IsFirstIn (fault : ShapeError) (tokens : List Token) : Prop :=
  ∃ front token rest, tokens = front ++ token :: rest ∧ (∀ other ∈ front, other.WellSpelled) ∧
    ¬token.WellSpelled ∧ fault.Quotes token

theorem Token.wellSpelled_iff_values {tokens : List Token} :
    (∀ token ∈ tokens, token.WellSpelled) ↔
      ∀ value ∈ tokens.filterMap Token.value?, value.WellSpelled := by
  simp only [Token.wellSpelled_iff, List.mem_filterMap, Option.mem_def]
  exact ⟨fun spelled value ⟨token, member, carries⟩ => spelled token member value carries,
    fun spelled token member value carries => spelled value ⟨token, member, carries⟩⟩

theorem Tree.findSome?_misspelling?_eq_none_iff {leaves : List Tree} :
    leaves.findSome? misspelling? = none ↔
      ∀ value ∈ leaves.filterMap Tree.value?, value.WellSpelled := by
  simp only [List.findSome?_eq_none_iff, misspelling?_eq_none_iff, List.mem_filterMap,
    Option.mem_def]
  exact ⟨fun spelled value ⟨leaf, member, carries⟩ => spelled leaf member value carries,
    fun spelled leaf member value carries => spelled value ⟨leaf, member, carries⟩⟩

theorem ShapeError.isFirstIn_of_findSome? {tokens : List Token} {leaves : List Tree}
    {fault : ShapeError} (same : tokens.filterMap Token.value? = leaves.filterMap Tree.value?)
    (found : leaves.findSome? Tree.misspelling? = some fault) : fault.IsFirstIn tokens := by
  obtain ⟨before, leaf, after, rfl, isFault, clean⟩ := List.findSome?_eq_some_iff.1 found
  have ill : ¬∀ value ∈ leaf.value?, value.WellSpelled := fun well => by
    rw [Tree.misspelling?_eq_none_iff.2 well] at isFault
    cases isFault
  obtain ⟨value, unmet⟩ := Classical.not_forall.1 ill
  obtain ⟨carries, bad⟩ := Classical.not_imp.1 unmet
  rw [List.filterMap_append, List.filterMap_cons_some carries] at same
  obtain ⟨front, others, rfl, sameFront, sameOthers⟩ := List.filterMap_eq_append_iff.1 same
  obtain ⟨marks, token, rest, rfl, noText, carried, -⟩ := List.filterMap_eq_cons_iff.1 sameOthers
  refine ⟨front ++ marks, token, rest, (List.append_assoc ..).symm, ?_, ?_,
    quotes_of_misspelling carries carried isFault⟩
  · rw [Token.wellSpelled_iff_values, List.filterMap_append, sameFront,
      List.filterMap_eq_nil_iff.2 noText, List.append_nil]
    exact Tree.findSome?_misspelling?_eq_none_iff.1 (List.findSome?_eq_none_iff.2 clean)
  · rw [Token.wellSpelled_iff]
    exact fun spelled => bad (spelled value carried)

namespace Program

variable {tokens : List Token} {program : Program}

theorem ofTree_eq_ok_iff_of_ofTokens (read : ofTokens tokens = .ok program) :
    ofTree program.toTree = .ok program ↔ ∀ token ∈ tokens, token.WellSpelled := by
  rw [Token.wellSpelled_iff_values, values_of_ofTokens read,
    ← Tree.findSome?_misspelling?_eq_none_iff, ofTree_toTree, verdict]
  split <;> simp_all

theorem isFirstIn_of_ofTree_error {fault : ShapeError} (read : ofTokens tokens = .ok program)
    (failed : ofTree program.toTree = .error fault) : fault.IsFirstIn tokens := by
  rw [ofTree_toTree, verdict] at failed
  split at failed
  · cases failed
  · rename_i found
    cases failed
    exact ShapeError.isFirstIn_of_findSome? (values_of_ofTokens read) found

end Program

theorem Token.wellSpelled_of_lexeme {word : List Char} {token : Token}
    (isLexeme : Lexeme word token) : token.WellSpelled := by
  cases isLexeme with
  | number isDigits fits => exact ⟨nofun, fun _ => ⟨_, fits, rfl⟩⟩
  | name isWord free => exact ⟨fun _ => ⟨_, rfl, by rwa [String.toList_ofList]⟩, nofun⟩
  | symbol spelled =>
    constructor
    · rintro ⟨⟩
      cases spelled
    · rintro ⟨⟩
      cases spelled

theorem Token.wellSpelled_of_splits {text rest : List Char} {tokens : List Token}
    (splits : Splits text tokens rest) : ∀ token ∈ tokens, token.WellSpelled := by
  intro token mem
  obtain ⟨word, isLexeme⟩ := splits.exists_lexeme mem
  exact wellSpelled_of_lexeme isLexeme

theorem Program.ofTree_of_ofSource {source : String} {program : Program}
    (read : ofSource source = .ok program) : ofTree program.toTree = .ok program := by
  obtain ⟨tokens, scanned, parsed⟩ := ofSource_eq_ok.1 read
  have splits : Token.Explains source.toList (.ok tokens) :=
    scanned ▸ Token.explains_scan source.toList
  exact (ofTree_eq_ok_iff_of_ofTokens parsed).2 (Token.wellSpelled_of_splits splits)

namespace Tree

theorem ofTree_ne_malformed {program : Program}
    (read : Program.ofTree program.toTree = .ok program) (fault : ShapeError) :
    Linked.ofTree program.toTree ≠ .error (.malformedTree fault) := by
  intro refused
  simp only [Linked.ofTree, read] at refused
  split at refused <;> cases refused

theorem values_eq_ok {tree : Tree} {limits : Limits} {values : Array Int64} :
    tree.values limits = .ok values ↔ tree.run limits #[] = (.ok (), values) := by
  rw [Tree.values]
  rcases tree.run limits (#[] : Array Int64) with ⟨_ | ⟨⟩, printed⟩
  · constructor <;> intro ended <;> cases ended
  · constructor <;> intro ended <;> cases ended <;> rfl

theorem values_eq_error {tree : Tree} {limits : Limits} {fault : RunError}
    (failed : tree.values limits = .error fault) :
    (tree.run limits (#[] : Array Int64)).1 = .error fault := by
  rw [values] at failed
  split at failed
  · cases failed
  · rename_i ran
    cases failed
    rw [ran]

end Tree

/-- Neither translating nor running this source text ends with a malformed tree. -/
structure NeverMalformed (source : String) : Prop where
  generate : ∀ fault, generateSource source ≠ .error (.generate (.malformedTree fault))
  run : ∀ program, Program.ofSource source = .ok program →
    ∀ (limits : Limits) (fault : ShapeError) (σ : Type) [Sink σ] (sink : σ),
      (program.toTree.run limits sink).1 ≠ .error (.malformedTree fault)
  write : ∀ program, Program.ofSource source = .ok program → ∀ limits fault writer,
    (program.toTree.write limits writer).1 ≠ .error (.malformedTree fault)
  values : ∀ program, Program.ofSource source = .ok program → ∀ limits fault,
    program.toTree.values limits ≠ .error (.malformedTree fault)

theorem neverMalformed (source : String) : NeverMalformed source := by
  have linked : ∀ program, Program.ofSource source = .ok program → ∀ fault,
      Linked.ofTree program.toTree ≠ .error (.malformedTree fault) :=
    fun program read => Tree.ofTree_ne_malformed (Program.ofTree_of_ofSource read)
  have run : ∀ program, Program.ofSource source = .ok program →
      ∀ (limits : Limits) (fault : ShapeError) (σ : Type) [Sink σ] (sink : σ),
        (program.toTree.run limits sink).1 ≠ .error (.malformedTree fault) :=
    fun program read limits fault σ _ sink failed =>
      linked program read fault ((Tree.run_eq_error_iff limits sink).1 failed)
  refine ⟨fun fault failed => ?_, run, fun program read limits fault writer failed => ?_,
    fun program read limits fault failed => ?_⟩
  · unfold generateSource at failed
    split at failed
    · rename_i refused
      cases failed
      unfold Program.ofSource at refused
      split at refused
      · cases refused
      · split at refused <;> cases refused
    · rename_i program read
      split at failed
      · rename_i generated
        cases failed
        exact linked program read fault (Tree.generate_eq_error_iff.1 generated)
      · cases failed
  · exact linked program read fault (Tree.write_eq_error_iff.1 failed)
  · exact run program read limits fault _ _ (Tree.values_eq_error failed)

/-- Every parsed tree is well formed. The reader of trees accepts it if and only if each name
and each numeral among the tokens is well spelled; otherwise it objects to the first that is
not, and to nothing else. What is parsed from a source text is always accepted, so neither
translating nor running a source text ends with a malformed tree. -/
theorem Program.parsed_ofTree_iff_wellSpelled :
    (∀ tokens program, ofTokens tokens = .ok program →
      ((∃ accepted, ofTree program.toTree = .ok accepted) ↔ ∀ token ∈ tokens, token.WellSpelled) ∧
      ∀ fault, ofTree program.toTree = .error fault → fault.IsFirstIn tokens) ∧
    ∀ source, (∀ program, ofSource source = .ok program → ofTree program.toTree = .ok program) ∧
      NeverMalformed source := by
  refine ⟨fun tokens program read => ⟨?_, fun fault => isFirstIn_of_ofTree_error read⟩,
    fun source => ⟨fun program => ofTree_of_ofSource, neverMalformed source⟩⟩
  rw [← ofTree_eq_ok_iff_of_ofTokens read, ofTree_toTree, verdict]
  split <;> simp

/-- Tokens with the numeral `07` are parsed and then refused; the scanner spells it `7`. -/
theorem Program.parsed_ofTree_iff_wellSpelled_numeral :
    let tokens (digits : String) : List Token :=
      [⟨.ident, "x"⟩, ⟨.assign, none⟩, ⟨.num, digits⟩, ⟨.semi, none⟩]
    let program (digits : String) : Program := ⟨[.assign "x" (.num digits)]⟩
    ofTokens (tokens "07") = .ok (program "07") ∧
      (∃ fault, ofTree (program "07").toTree = .error fault ∧ fault.IsFirstIn (tokens "07")) ∧
      ofSource "x = 07;" = .ok (program "7") ∧ ofTree (program "7").toTree = .ok (program "7") := by
  intro tokens program
  have read (digits : String) : ofTokens (tokens digits) = .ok (program digits) := by
    have value : Parse.expr 511 ((tokens digits).drop 2) = .ok (.num digits, [⟨.semi, none⟩]) :=
      Parse.expr_eq_ok.2 ⟨_, _, Parse.term_eq_ok.2 ⟨_, _, (Parse.FactorReads.num rfl).eq_ok,
        .stop (by rintro _ _ ⟨⟩; rfl)⟩, .stop (by rintro _ _ ⟨⟩; rfl)⟩
    exact ofTokens_of_statement (Parse.StatementReads.assign rfl rfl value rfl).eq_ok
  have scanned : Token.ofSource "x = 07;" = .ok (tokens "7") := by
    change Token.scan ['x', ' ', '=', ' ', '0', '7', ';'] = _
    rw [Token.scan_of_first (by decide)
        (show Token.first 'x' _ = .ok (_, [' ', '=', ' ', '0', '7', ';']) from rfl),
      Token.scan_of_blank (by decide),
      Token.scan_of_first (by decide)
        (show Token.first '=' _ = .ok (_, [' ', '0', '7', ';']) from rfl),
      Token.scan_of_blank (by decide),
      Token.scan_of_first (by decide) (show Token.first '0' _ = .ok (_, [';']) from rfl),
      Token.scan_of_first (by decide) (show Token.first ';' _ = .ok (_, []) from rfl), Token.scan]
    rfl
  have parsed : ofSource "x = 07;" = .ok (program "7") := by
    simp only [ofSource, scanned, read]
  have failed : ofTree (program "07").toTree = .error (.invalidNumber "07") := rfl
  exact ⟨read "07", ⟨_, failed, (parsed_ofTree_iff_wellSpelled.1 _ _ (read "07")).2 _ failed⟩,
    parsed, (parsed_ofTree_iff_wellSpelled.2 _).1 _ parsed⟩

end ImpToC
