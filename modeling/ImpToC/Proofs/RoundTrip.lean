import ImpToC.Proofs.Lookahead
import ImpToC.Proofs.Nesting
import ImpToC.Proofs.Rendering

/-! Writing programs as source text. An operand of an arithmetic operator that is itself made
by an operator goes in brackets; nothing else does that the grammar does not ask for. Some
programs cannot be written so: a name may be a reserved word, a comparison may stand where
the grammar has none, or an `else` may come to stand where an `if` inside would take it. What
is written otherwise is read back, if the parser has levels enough. It needs two for each
node on a way down, one for the brackets and one for the operator inside them. -/
namespace ImpToC

open Token (Leads)

namespace Token

def bracketed (tokens : List Token) : List Token := ⟨.lparen, none⟩ :: (tokens ++ [⟨.rparen, none⟩])

def commaSeparated (items : List (List Token)) : List Token := [⟨.comma, none⟩].intercalate items

theorem bracketed_append (tokens rest : List Token) :
    bracketed tokens ++ rest = ⟨.lparen, none⟩ :: (tokens ++ ⟨.rparen, none⟩ :: rest) := by
  simp [bracketed]

theorem commaSeparated_cons (first second : List Token) (items : List (List Token)) :
    commaSeparated (first :: second :: items) =
      first ++ ⟨.comma, none⟩ :: commaSeparated (second :: items) := by
  simp [commaSeparated]

end Token

open Token (bracketed commaSeparated bracketed_append commaSeparated_cons)

/-- The tokens of an operand, made from its own: brackets go around an operator. -/
def Expr.asOperand : Expr → List Token → List Token
  | binary _ _ _, tokens => bracketed tokens
  | _, tokens => tokens

mutual

def Expr.toTokens : Expr → List Token
  | num digits => [⟨.num, digits⟩]
  | var name => [⟨.ident, name⟩]
  | binary (.arith op) left right =>
    left.asOperand left.toTokens ++ ⟨.arith op, none⟩ :: right.asOperand right.toTokens
  | binary (.rel op) left right => left.toTokens ++ ⟨.rel op, none⟩ :: right.toTokens
  | call callee args => ⟨.ident, callee⟩ :: bracketed (commaSeparated (Expr.toTokensAll args))

def Expr.toTokensAll : List Expr → List (List Token)
  | [] => []
  | arg :: args => arg.toTokens :: Expr.toTokensAll args

end

def Stmt.toTokens : Stmt → List Token
  | assign target value =>
    ⟨.ident, target⟩ :: ⟨.assign, none⟩ :: (value.toTokens ++ [⟨.semi, none⟩])
  | print value => ⟨.printWord, none⟩ :: (bracketed value.toTokens ++ [⟨.semi, none⟩])
  | ifThen cond body => ⟨.ifWord, none⟩ :: (bracketed cond.toTokens ++ body.toTokens)
  | ifElse cond body other => ⟨.ifWord, none⟩ ::
    (bracketed cond.toTokens ++ (body.toTokens ++ ⟨.elseWord, none⟩ :: other.toTokens))
  | loop cond body => ⟨.whileWord, none⟩ :: (bracketed cond.toTokens ++ body.toTokens)
  | function name params body => ⟨.functionWord, none⟩ :: ⟨.ident, name⟩ ::
    (bracketed (commaSeparated (params.map fun param => [⟨.ident, some param⟩])) ++ body.toTokens)

def Program.toTokens (program : Program) : List Token := program.statements.flatMap Stmt.toTokens

def Program.toSource (program : Program) : String := Token.write program.toTokens

mutual

def Expr.isArithmetic : Expr → Bool
  | num _ => true
  | var _ => true
  | binary (.arith _) left right => left.isArithmetic && right.isArithmetic
  | binary (.rel _) _ _ => false
  | call _ args => Expr.allArithmetic args

def Expr.allArithmetic : List Expr → Bool
  | [] => true
  | arg :: args => arg.isArithmetic && Expr.allArithmetic args

end

def Expr.isCondition : Expr → Bool
  | binary (.rel _) left right => left.isArithmetic && right.isArithmetic
  | expr => expr.isArithmetic

/-- Comparisons stand only at the roots of the conditions of `if` and `while`. -/
def Stmt.comparesInConditions : Stmt → Bool
  | assign _ value => value.isArithmetic
  | print value => value.isArithmetic
  | ifThen cond body => cond.isCondition && body.comparesInConditions
  | ifElse cond body other =>
    cond.isCondition && (body.comparesInConditions && other.comparesInConditions)
  | loop cond body => cond.isCondition && body.comparesInConditions
  | function _ _ body => body.comparesInConditions

/-- The last statement inside, as the text has it, is an `if` without `else`. -/
def Stmt.endsOpen : Stmt → Bool
  | assign _ _ => false
  | print _ => false
  | ifThen _ _ => true
  | ifElse _ _ other => other.endsOpen
  | loop _ body => body.endsOpen
  | function _ _ body => body.endsOpen

def Stmt.keepsElses : Stmt → Bool
  | assign _ _ => true
  | print _ => true
  | ifThen _ body => body.keepsElses
  | ifElse _ body other => !body.endsOpen && (body.keepsElses && other.keepsElses)
  | loop _ body => body.keepsElses
  | function _ _ body => body.keepsElses

def Program.comparesInConditions (program : Program) : Bool :=
  program.statements.all Stmt.comparesInConditions

def Program.keepsElses (program : Program) : Bool := program.statements.all Stmt.keepsElses

namespace Parse

variable {levels : Nat} {tokens rest : List Token} {mark : Token}

theorem expr_of_operator {op : ArithOp} {middle : List Token} {left right : Expr}
    (first : factor (levels + 1) tokens = .ok (left, ⟨.arith op, none⟩ :: middle))
    (second : factor levels middle = .ok (right, mark :: rest)) (ends : Ends mark) :
    expr (levels + 1) tokens = .ok (.binary (.arith op) left right, mark :: rest) := by
  cases op with
  | add | sub =>
    have start := term_eq_ok.2 ⟨_, _, first, .stop (by rintro _ _ ⟨⟩; rfl)⟩
    have operand := term_eq_ok.2 ⟨_, _, second, .stop ends.noProduct⟩
    exact expr_eq_ok.2 ⟨_, _, start, .more rfl operand (.stop ends.noSum)⟩
  | mul | div =>
    have product := term_eq_ok.2 ⟨_, _, first, .more rfl second (.stop ends.noProduct)⟩
    exact expr_eq_ok.2 ⟨_, _, product, .stop ends.noSum⟩

end Parse

open Parse (Ends ends_of_kind)

/-- The parser reads the tokens of the expression as the expression: as a factor where they
stand for an operand, and as a sum where a mark ends them. The sum needs a level less, which
the brackets around an operand take. -/
structure Expr.ReadsBack (expr : Expr) : Prop where
  operand : ∀ levels rest, 2 * expr.toTree.height ≤ levels → ¬Leads .lparen rest →
    Parse.factor levels (expr.asOperand expr.toTokens ++ rest) = .ok (expr, rest)
  sum : ∀ levels mark rest, 2 * expr.toTree.height ≤ levels + 1 → Ends mark →
    Parse.expr levels (expr.toTokens ++ mark :: rest) = .ok (expr, mark :: rest)

namespace Expr

/-- An expression that is never put in brackets is a factor wherever it stands. -/
theorem readsBack_of_factor {expr : Expr}
    (bare : expr.asOperand expr.toTokens = expr.toTokens)
    (read : ∀ levels rest, 2 * expr.toTree.height ≤ levels + 1 → ¬Leads .lparen rest →
      Parse.factor levels (expr.toTokens ++ rest) = .ok (expr, rest)) : expr.ReadsBack where
  operand := by
    intro levels rest enough noCall
    rw [bare]
    exact read levels rest (by omega) noCall
  sum := by
    intro levels mark rest enough ends
    exact Parse.expr_of_factor (read levels _ enough (mt Token.leads_cons.1 ends.1)) ends

theorem readsBack_num (digits : String) : (num digits).ReadsBack := by
  refine readsBack_of_factor rfl fun levels rest enough _ => ?_
  rw [toTree, Tree.height_num] at enough
  obtain ⟨below, rfl⟩ : ∃ below, levels = below + 1 := ⟨levels - 1, by omega⟩
  rw [toTokens]
  exact (Parse.FactorReads.num rfl).eq_ok

theorem readsBack_var (name : String) : (var name).ReadsBack := by
  refine readsBack_of_factor rfl fun levels rest enough noCall => ?_
  rw [toTree, Tree.height_ident] at enough
  obtain ⟨below, rfl⟩ : ∃ below, levels = below + 1 := ⟨levels - 1, by omega⟩
  rw [toTokens]
  exact (Parse.FactorReads.var rfl noCall).eq_ok

theorem readsBack_of_sum {op : Operator} {left right : Expr}
    (sum : ∀ levels mark rest, 2 * (binary op left right).toTree.height ≤ levels + 1 → Ends mark →
      Parse.expr levels ((binary op left right).toTokens ++ mark :: rest) =
        .ok (binary op left right, mark :: rest)) : (binary op left right).ReadsBack where
  operand := by
    intro levels rest enough _
    have high : 0 < (binary op left right).toTree.height := by
      rw [toTree, Tree.height_binary]
      omega
    obtain ⟨below, rfl⟩ : ∃ below, levels = below + 1 := ⟨levels - 1, by omega⟩
    rw [asOperand, bracketed_append]
    exact (Parse.FactorReads.group rfl (sum below _ rest enough (ends_of_kind rfl (by simp)))
      rfl).eq_ok
  sum := sum

theorem readsBack_arith {op : ArithOp} {left right : Expr} (first : left.ReadsBack)
    (second : right.ReadsBack) : (binary (.arith op) left right).ReadsBack := by
  refine readsBack_of_sum fun levels mark rest enough ends => ?_
  rw [toTree, Tree.height_binary] at enough
  obtain ⟨below, rfl⟩ : ∃ below, levels = below + 1 := ⟨levels - 1, by omega⟩
  have readFirst := first.operand (below + 1)
    (⟨.arith op, none⟩ :: (right.asOperand right.toTokens ++ mark :: rest)) (by omega)
    (by simp [Token.leads_cons])
  have readSecond := second.operand below (mark :: rest) (by omega) (mt Token.leads_cons.1 ends.1)
  rw [toTokens, List.append_assoc, List.cons_append]
  exact Parse.expr_of_operator readFirst readSecond ends

theorem argumentsRead_of_readsBack {levels : Nat} {rest : List Token} {first : Expr}
    {args : List Expr} (each : ∀ arg ∈ first :: args, arg.ReadsBack)
    (enough : 2 * Tree.heights (toTrees (first :: args)) ≤ levels + 1) :
    Parse.ArgumentsRead levels
      (commaSeparated (toTokensAll (first :: args)) ++ ⟨.rparen, none⟩ :: rest) (first :: args)
      rest := by
  induction args generalizing first with
  | nil =>
    rw [toTrees, Tree.heights] at enough
    have read := (each first List.mem_cons_self).sum levels ⟨.rparen, none⟩ rest (by omega)
      (ends_of_kind rfl (by simp))
    rw [toTokensAll, toTokensAll, commaSeparated, List.intercalate_singleton]
    exact .last read rfl
  | cons second args ih =>
    rw [toTrees, Tree.heights] at enough
    have others := ih (fun arg mem => each arg (List.mem_cons_of_mem _ mem)) (by omega)
    rw [toTokensAll] at others
    have read := fun tail => (each first List.mem_cons_self).sum levels ⟨.comma, none⟩ tail
      (by omega) (ends_of_kind rfl (by simp))
    rw [toTokensAll, toTokensAll, commaSeparated_cons, List.append_assoc, List.cons_append]
    exact .more (read _) rfl others

theorem readsBack_call {callee : String} {args : List Expr} (each : ∀ arg ∈ args, arg.ReadsBack) :
    (call callee args).ReadsBack := by
  refine readsBack_of_factor rfl fun levels rest enough _ => ?_
  rw [toTree, Tree.height_call] at enough
  obtain ⟨below, rfl⟩ : ∃ below, levels = below + 1 := ⟨levels - 1, by omega⟩
  rw [toTokens, List.cons_append, bracketed_append]
  refine (Parse.FactorReads.call rfl rfl ?_).eq_ok
  cases args with
  | nil => exact Parse.arguments_of_none rfl
  | cons first args =>
    have read : Parse.ArgumentsRead below _ (first :: args) rest :=
      argumentsRead_of_readsBack each (by omega)
    exact Parse.arguments_of_read read.not_leads_rparen read

mutual

theorem readsBack (expr : Expr) (arithmetic : expr.isArithmetic) : expr.ReadsBack := by
  match expr with
  | .num digits => exact readsBack_num digits
  | .var name => exact readsBack_var name
  | .binary (.arith op) left right =>
    rw [isArithmetic, Bool.and_eq_true] at arithmetic
    exact readsBack_arith (readsBack left arithmetic.1) (readsBack right arithmetic.2)
  | .binary (.rel op) left right =>
    rw [isArithmetic] at arithmetic
    cases arithmetic
  | .call callee args =>
    rw [isArithmetic] at arithmetic
    exact readsBack_call (readsBack_all args arithmetic)

theorem readsBack_all (args : List Expr) (arithmetic : Expr.allArithmetic args) :
    ∀ arg ∈ args, arg.ReadsBack := by
  match args with
  | [] => exact nofun
  | arg :: args =>
    rw [allArithmetic, Bool.and_eq_true] at arithmetic
    exact List.forall_mem_cons.2
      ⟨readsBack arg arithmetic.1, readsBack_all args arithmetic.2⟩

end

end Expr

theorem Expr.condition_toTokens {cond : Expr} (isCondition : cond.isCondition) {levels : Nat}
    (enough : 2 * cond.toTree.height ≤ levels + 1) (rest : List Token) :
    Parse.condition levels (cond.toTokens ++ ⟨.rparen, none⟩ :: rest) =
      .ok (cond, ⟨.rparen, none⟩ :: rest) := by
  have closes : Ends ⟨.rparen, none⟩ := ends_of_kind rfl (by simp)
  unfold Expr.isCondition at isCondition
  split at isCondition
  · rename_i op left right
    rw [Bool.and_eq_true] at isCondition
    rw [toTree, Tree.height_binary] at enough
    have first := (readsBack left isCondition.1).sum levels ⟨.rel op, none⟩
      (right.toTokens ++ ⟨.rparen, none⟩ :: rest) (by omega) (ends_of_kind rfl (by simp))
    have second := (readsBack right isCondition.2).sum levels _ rest (by omega) closes
    rw [toTokens, List.append_assoc, List.cons_append]
    exact Parse.condition_of_compare first rfl second
  · exact Parse.condition_of_expr ((readsBack cond isCondition).sum levels _ rest enough closes)
      (by simp)

theorem Expr.guard_toTokens {cond : Expr} (isCondition : cond.isCondition) {levels : Nat}
    (enough : 2 * cond.toTree.height ≤ levels + 1) (rest : List Token) :
    Parse.guard levels (bracketed cond.toTokens ++ rest) = .ok (cond, rest) := by
  rw [bracketed_append]
  exact Parse.guard_of_condition rfl (condition_toTokens isCondition enough rest) rfl

theorem Parse.parametersRead_toTokens (first : String) (params : List String) (rest : List Token) :
    ParametersRead (commaSeparated ((first :: params).map fun param => [⟨.ident, some param⟩]) ++
      ⟨.rparen, none⟩ :: rest) (first :: params) rest := by
  induction params generalizing first with
  | nil => exact .last rfl rfl
  | cons second params ih =>
    rw [List.map_cons, List.map_cons, commaSeparated_cons, List.append_assoc, List.cons_append]
    exact .more rfl rfl (ih second)

theorem Parse.parameters_toTokens (params : List String) (rest : List Token) :
    parameters (bracketed (commaSeparated (params.map fun param => [⟨.ident, some param⟩])) ++
      rest) = .ok (params, rest) := by
  rw [bracketed_append]
  cases params with
  | nil => exact parameters_of_none rfl rfl
  | cons first params => exact parameters_of_read rfl (parametersRead_toTokens first params rest)

namespace Stmt

theorem statement_toTokens {stmt : Stmt} (compares : stmt.comparesInConditions)
    (keeps : stmt.keepsElses) {levels : Nat} (enough : 2 * stmt.toTree.height ≤ levels + 2)
    {rest : List Token} (noElse : stmt.endsOpen → ¬Leads .elseWord rest) :
    Parse.statement levels (stmt.toTokens ++ rest) = .ok (stmt, rest) := by
  induction stmt generalizing levels rest with
  | assign target value =>
    rw [toTree, Tree.height_assign] at enough
    obtain ⟨below, rfl⟩ : ∃ below, levels = below + 1 := ⟨levels - 1, by omega⟩
    have read := (value.readsBack compares).sum below ⟨.semi, none⟩ rest (by omega)
      (ends_of_kind rfl (by simp))
    simp only [toTokens, List.cons_append, List.append_assoc, List.nil_append]
    exact (Parse.StatementReads.assign rfl rfl read rfl).eq_ok
  | print value =>
    have positive := value.toTree.height_pos
    rw [toTree, Tree.height_print] at enough
    obtain ⟨below, rfl⟩ : ∃ below, levels = below + 1 := ⟨levels - 1, by omega⟩
    have read := (value.readsBack compares).sum below ⟨.rparen, none⟩ (⟨.semi, none⟩ :: rest)
      (by omega) (ends_of_kind rfl (by simp))
    simp only [toTokens, List.cons_append, List.append_assoc, List.nil_append, bracketed_append]
    exact (Parse.StatementReads.print rfl rfl read rfl rfl).eq_ok
  | ifThen cond body ih =>
    rw [comparesInConditions, Bool.and_eq_true] at compares
    have positive := cond.toTree.height_pos
    rw [toTree, Tree.height_ifThen] at enough
    obtain ⟨below, rfl⟩ : ∃ below, levels = below + 1 := ⟨levels - 1, by omega⟩
    have test := Expr.guard_toTokens compares.1 (by omega : _ ≤ below + 1) (body.toTokens ++ rest)
    have inner : Parse.statement below (body.toTokens ++ rest) = .ok (body, rest) :=
      ih compares.2 keeps (by omega) fun _ => noElse rfl
    rw [toTokens, List.cons_append, List.append_assoc]
    exact (Parse.StatementReads.ifThen rfl test inner (noElse rfl)).eq_ok
  | ifElse cond body other ihBody ihOther =>
    simp only [comparesInConditions, keepsElses, Bool.and_eq_true, Bool.not_eq_true']
      at compares keeps
    obtain ⟨isCondition, comparesBody, comparesOther⟩ := compares
    obtain ⟨closed, keepsBody, keepsOther⟩ := keeps
    have positive := cond.toTree.height_pos
    rw [toTree, Tree.height_ifElse] at enough
    obtain ⟨below, rfl⟩ : ∃ below, levels = below + 1 := ⟨levels - 1, by omega⟩
    have test := Expr.guard_toTokens isCondition (by omega : _ ≤ below + 1)
      (body.toTokens ++ ⟨.elseWord, none⟩ :: (other.toTokens ++ rest))
    -- a body that ends in an open `if` would take the `else` for its own
    have inner : Parse.statement below (body.toTokens ++ ⟨.elseWord, none⟩ ::
        (other.toTokens ++ rest)) = .ok (body, _) :=
      ihBody comparesBody keepsBody (by omega) fun endsOpen => by simp [closed] at endsOpen
    have alternative : Parse.statement below (other.toTokens ++ rest) = .ok (other, rest) :=
      ihOther comparesOther keepsOther (by omega) noElse
    simp only [toTokens, List.cons_append, List.append_assoc]
    exact (Parse.StatementReads.ifElse rfl test inner rfl alternative).eq_ok
  | loop cond body ih =>
    rw [comparesInConditions, Bool.and_eq_true] at compares
    have positive := cond.toTree.height_pos
    rw [toTree, Tree.height_loop] at enough
    obtain ⟨below, rfl⟩ : ∃ below, levels = below + 1 := ⟨levels - 1, by omega⟩
    have test := Expr.guard_toTokens compares.1 (by omega : _ ≤ below + 1) (body.toTokens ++ rest)
    have inner : Parse.statement below (body.toTokens ++ rest) = .ok (body, rest) :=
      ih compares.2 keeps (by omega) noElse
    rw [toTokens, List.cons_append, List.append_assoc]
    exact (Parse.StatementReads.loop rfl test inner).eq_ok
  | function name params body ih =>
    have positive := body.toTree.height_pos
    have deeper := Tree.height_lt_function name params body.toTree
    rw [toTree] at enough
    obtain ⟨below, rfl⟩ : ∃ below, levels = below + 1 := ⟨levels - 1, by omega⟩
    have list := Parse.parameters_toTokens params (body.toTokens ++ rest)
    have inner : Parse.statement below (body.toTokens ++ rest) = .ok (body, rest) :=
      ih compares keeps (by omega) noElse
    simp only [toTokens, List.cons_append, List.append_assoc]
    exact (Parse.StatementReads.function rfl rfl list inner).eq_ok

end Stmt

theorem Parse.statements_toTokens {stmts : List Stmt}
    (compares : ∀ stmt ∈ stmts, stmt.comparesInConditions)
    (keeps : ∀ stmt ∈ stmts, stmt.keepsElses)
    (enough : ∀ stmt ∈ stmts, 2 * stmt.toTree.height ≤ maxLevels + 2) :
    statements (stmts.flatMap Stmt.toTokens) = .ok stmts := by
  induction stmts with
  | nil => rw [List.flatMap_nil, statements]
  | cons stmt stmts ih =>
    obtain ⟨comparesFirst, comparesOthers⟩ := List.forall_mem_cons.1 compares
    obtain ⟨keepsFirst, keepsOthers⟩ := List.forall_mem_cons.1 keeps
    obtain ⟨enoughFirst, enoughOthers⟩ := List.forall_mem_cons.1 enough
    have read := Stmt.statement_toTokens comparesFirst keepsFirst enoughFirst
      fun _ => Token.not_leads_nil
    rw [List.append_nil] at read
    have alone : statements stmt.toTokens = .ok [stmt] :=
      Program.ofTokens_eq_ok.1 (Program.ofTokens_of_statement read)
    have others := ih comparesOthers keepsOthers enoughOthers
    rw [List.flatMap_cons, statements_append alone (not_leads_else_of_statements others), others]
    rfl

theorem Program.ofTokens_toTokens {program : Program} (compares : program.comparesInConditions)
    (keeps : program.keepsElses) (enough : 2 * program.toTree.height ≤ Parse.maxLevels + 4) :
    ofTokens program.toTokens = .ok program := by
  obtain ⟨stmts⟩ := program
  simp only [toTree, Tree.program, Tree.height] at enough
  have low : Tree.heights (stmts.map Stmt.toTree) ≤ Parse.maxLevels / 2 + 1 := by omega
  rw [Tree.heights_le_iff] at low
  have read := Parse.statements_toTokens (List.all_eq_true.1 compares) (List.all_eq_true.1 keeps)
    fun stmt mem => by
      have := low stmt.toTree (List.mem_map_of_mem mem)
      omega
  rw [ofTokens, toTokens, read]

def Token.Bare (tokens : List Token) : Prop :=
  ∀ token ∈ tokens, token.kind.symbol?.isSome → token.text? = none

namespace Token

theorem bare_nil : Bare [] := nofun

theorem bare_append {first second : List Token} :
    Bare (first ++ second) ↔ Bare first ∧ Bare second := by
  simp only [Bare, List.forall_mem_append]

theorem bare_cons {token : Token} {tokens : List Token} :
    Bare (token :: tokens) ↔ (token.kind.symbol?.isSome → token.text? = none) ∧ Bare tokens := by
  simp only [Bare, List.forall_mem_cons]

theorem bare_mark {kind : Kind} {tokens : List Token} :
    Bare (⟨kind, none⟩ :: tokens) ↔ Bare tokens := by
  simp [bare_cons]

theorem bare_name {name : String} {tokens : List Token} :
    Bare (⟨.ident, some name⟩ :: tokens) ↔ Bare tokens := by
  simp [bare_cons, Kind.symbol?]

theorem bare_bracketed {tokens : List Token} : Bare (bracketed tokens) ↔ Bare tokens := by
  simp [bracketed, bare_mark, bare_append, bare_nil]

theorem bare_commaSeparated {items : List (List Token)} (each : ∀ item ∈ items, Bare item) :
    Bare (commaSeparated items) := by
  induction items with
  | nil => exact bare_nil
  | cons first items ih =>
    obtain ⟨bareFirst, bareOthers⟩ := List.forall_mem_cons.1 each
    cases items with
    | nil => simpa [commaSeparated] using bareFirst
    | cons second items =>
      rw [commaSeparated_cons, bare_append, bare_mark]
      exact ⟨bareFirst, ih bareOthers⟩

end Token

open Token (bare_append bare_mark bare_name bare_bracketed)

theorem Expr.bare_asOperand {expr : Expr} {tokens : List Token} (bare : Token.Bare tokens) :
    Token.Bare (expr.asOperand tokens) := by
  unfold asOperand
  split
  · exact bare_bracketed.2 bare
  · exact bare

mutual

theorem Expr.bare_toTokens (expr : Expr) : Token.Bare expr.toTokens := by
  match expr with
  | .num digits =>
    rw [toTokens, Token.bare_cons]
    exact ⟨nofun, Token.bare_nil⟩
  | .var name =>
    rw [toTokens, bare_name]
    exact Token.bare_nil
  | .binary (.arith op) left right =>
    rw [toTokens, bare_append, bare_mark]
    exact ⟨bare_asOperand (bare_toTokens left), bare_asOperand (bare_toTokens right)⟩
  | .binary (.rel op) left right =>
    rw [toTokens, bare_append, bare_mark]
    exact ⟨bare_toTokens left, bare_toTokens right⟩
  | .call callee args =>
    rw [toTokens, bare_name, bare_bracketed]
    exact Token.bare_commaSeparated (bare_toTokensAll args)

theorem Expr.bare_toTokensAll (args : List Expr) : ∀ item ∈ toTokensAll args, Token.Bare item := by
  match args with
  | [] => exact nofun
  | arg :: args =>
    rw [toTokensAll]
    exact List.forall_mem_cons.2 ⟨bare_toTokens arg, bare_toTokensAll args⟩

end

theorem Stmt.bare_toTokens (stmt : Stmt) : Token.Bare stmt.toTokens := by
  induction stmt with
  | assign target value =>
    simp only [toTokens, bare_name, bare_mark, bare_append]
    exact ⟨value.bare_toTokens, Token.bare_nil⟩
  | print value =>
    simp only [toTokens, bare_mark, bare_append, bare_bracketed]
    exact ⟨value.bare_toTokens, Token.bare_nil⟩
  | ifThen cond body ih =>
    simp only [toTokens, bare_mark, bare_append, bare_bracketed]
    exact ⟨cond.bare_toTokens, ih⟩
  | ifElse cond body other ihBody ihOther =>
    simp only [toTokens, bare_mark, bare_append, bare_bracketed]
    exact ⟨cond.bare_toTokens, ihBody, ihOther⟩
  | loop cond body ih =>
    simp only [toTokens, bare_mark, bare_append, bare_bracketed]
    exact ⟨cond.bare_toTokens, ih⟩
  | function name params body ih =>
    simp only [toTokens, bare_mark, bare_name, bare_append, bare_bracketed]
    refine ⟨Token.bare_commaSeparated ?_, ih⟩
    simp [bare_name, Token.bare_nil]

namespace Program

theorem bare_toTokens (program : Program) : Token.Bare program.toTokens := by
  intro token mem
  obtain ⟨stmt, -, inside⟩ := List.mem_flatMap.1 mem
  exact stmt.bare_toTokens token inside

theorem valid_toTokens {program : Program} (read : ofTokens program.toTokens = .ok program)
    (shape : ofTree program.toTree = .ok program)
    (free : ∀ leaf ∈ program.toTree.leaves, ∀ text ∈ leaf.name?, Token.Kind.keyword? text = none) :
    ∀ token ∈ program.toTokens, token.Valid := by
  intro token mem
  refine ⟨(ofTree_eq_ok_iff_of_ofTokens read).1 shape token mem, fun isName => ?_,
    program.bare_toTokens token mem⟩
  have carries : token.value? = some (.name token.text) := by rw [Token.value?, isName]
  have inTokens : .name token.text ∈ program.toTokens.filterMap Token.value? :=
    List.mem_filterMap.2 ⟨token, mem, carries⟩
  rw [values_of_ofTokens read] at inTokens
  obtain ⟨leaf, inTree, carried⟩ := List.mem_filterMap.1 inTokens
  exact free leaf inTree token.text (by rw [Option.mem_def, Tree.name?, carried])

/-- Writing a program as source text and reading the text gives the tree of the program back.
The tree has to be one that the text can express: no name is a reserved word, comparisons
stand at the roots of conditions, no `else` is taken by another `if`; and it is not too high. -/
theorem ofSource_toSource {tree : Tree} {program : Program} (shape : ofTree tree = .ok program)
    (free : ∀ leaf ∈ tree.leaves, ∀ text ∈ leaf.name?, Token.Kind.keyword? text = none)
    (compares : program.comparesInConditions) (keeps : program.keepsElses)
    (low : tree.height ≤ 200) : (ofSource program.toSource).map toTree = .ok tree := by
  obtain ⟨-, rfl⟩ := ofTree_eq_ok_iff.1 shape
  have enough : 2 * program.toTree.height ≤ Parse.maxLevels + 4 := by
    have levels : Parse.maxLevels = 512 := rfl
    omega
  have read := ofTokens_toTokens compares keeps enough
  have scanned := Token.ofSource_write_of_valid (valid_toTokens read shape free)
  simp only [ofSource, toSource, scanned, read]
  rfl

/-- A difference on the right of a difference keeps its brackets, and an `else` its `if`. -/
theorem ofSource_toSource_nested :
    let body : Stmt := .ifElse (.binary (.rel .lt) (.var "a") (.call "f" [.var "b", .num "3"]))
      (.print (.var "a")) (.ifThen (.var "b") (.assign "b" (.num "0")))
    let cond : Expr := .binary (.arith .sub) (.var "a")
      (.binary (.arith .sub) (.num "1") (.var "b"))
    let program : Program := ⟨[.function "f" ["a", "b"] (.loop cond body)]⟩
    program.toSource = "function f ( a , b ) while ( a - ( 1 - b ) ) " ++
        "if ( a < f ( b , 3 ) ) print ( a ) ; else if ( b ) b = 0 ;" ∧
      (ofSource program.toSource).map toTree = .ok program.toTree := by
  intro body cond program
  have shape : ofTree program.toTree = .ok program := rfl
  have free : ∀ leaf ∈ program.toTree.leaves, ∀ text ∈ leaf.name?,
      Token.Kind.keyword? text = none := by decide
  exact ⟨by decide, ofSource_toSource shape free rfl rfl (by decide)⟩

end Program

end ImpToC
