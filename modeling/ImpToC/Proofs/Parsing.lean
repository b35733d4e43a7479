import Mathlib.Logic.ExistsUnique
import ImpToC.Proofs.Grammar

/-! The parser accepts exactly the phrases of the grammar and builds their trees, as long
as they do not nest too deeply. What the parser reads is a phrase, by induction on the
levels. What is a phrase the parser reads, by induction on the derivation: the loop for a
chain of operators passes through every left part of the chain on its way. -/
namespace ImpToC

namespace Parse

open Token (Leads)

variable {levels : Nat} {tokens rest : List Token}

theorem multiplicative?_eq_some {kind : Token.Kind} {op : Operator}
    (found : multiplicative? kind = some op) :
    op.kind = kind ∧ (kind = .arith .mul ∨ kind = .arith .div) := by
  unfold multiplicative? at found
  split at found
  · cases found
    exact ⟨rfl, .inl rfl⟩
  · cases found
    exact ⟨rfl, .inr rfl⟩
  · cases found

theorem additive?_eq_some {kind : Token.Kind} {op : Operator}
    (found : additive? kind = some op) :
    op.kind = kind ∧ (kind = .arith .add ∨ kind = .arith .sub) := by
  unfold additive? at found
  split at found
  · cases found
    exact ⟨rfl, .inl rfl⟩
  · cases found
    exact ⟨rfl, .inr rfl⟩
  · cases found

def Sound {α : Type} (phrase : Phrase) (nodes : α → phrase.Nodes) (rule : Parse α) : Prop :=
  ∀ tokens a rest, rule tokens = .ok (a, rest) → Derives phrase tokens (nodes a) rest

theorem sound_term (upTo : ∀ k ≤ levels, Sound .factor Expr.toTree (factor k)) :
    Sound .term Expr.toTree (term levels) := by
  intro tokens result rest done
  obtain ⟨first, middle, read, chain⟩ := term_eq_ok.1 done
  have start : Derives .term tokens first.toTree middle :=
    .termFactor (upTo levels (Nat.le_refl _) _ _ _ read)
  clear read done
  induction chain with
  | stop => exact start
  | more isOp read _ ih =>
    obtain ⟨same, isOne⟩ := multiplicative?_eq_some isOp
    have second := upTo _ (Nat.le_succ _) _ _ _ read
    refine ih (fun k small => upTo k (by omega)) ?_
    rw [Expr.toTree, same]
    exact .termFold start isOne second

theorem sound_expr_of (upTo : ∀ k ≤ levels, Sound .factor Expr.toTree (factor k)) :
    Sound .expr Expr.toTree (expr levels) := by
  intro tokens result rest done
  obtain ⟨first, middle, read, chain⟩ := expr_eq_ok.1 done
  have start : Derives .expr tokens first.toTree middle := .exprTerm (sound_term upTo _ _ _ read)
  clear read done
  induction chain with
  | stop => exact start
  | more isOp read _ ih =>
    obtain ⟨same, isOne⟩ := additive?_eq_some isOp
    have second := sound_term (fun k small => upTo k (by omega)) _ _ _ read
    refine ih (fun k small => upTo k (by omega)) ?_
    rw [Expr.toTree, same]
    exact .exprFold start isOne second

theorem sound_argumentList {args : List Expr} (inner : Sound .expr Expr.toTree (expr levels))
    (read : ArgumentsRead levels tokens args rest) :
    Derives .argumentList tokens (Expr.toTrees args) rest := by
  induction read with
  | last read isClosing =>
    rw [Expr.toTrees, Expr.toTrees]
    exact .argumentLast (inner _ _ _ read) isClosing
  | more read isComma _ ih =>
    rw [Expr.toTrees]
    exact .argumentMore (inner _ _ _ read) isComma ih

theorem sound_arguments (inner : Sound .expr Expr.toTree (expr levels)) :
    Sound .arguments Expr.toTrees (arguments levels) := by
  intro tokens args rest done
  rcases arguments_eq_ok done with ⟨rfl, closing, rfl, isClosing⟩ | read
  · rw [Expr.toTrees]
    exact .argumentsNone isClosing
  · exact .argumentsSome (sound_argumentList inner read)

theorem sound_factor (levels : Nat) : Sound .factor Expr.toTree (factor levels) := by
  induction levels using Nat.strongRecOn with
  | ind levels ih =>
    intro tokens result rest done
    obtain ⟨below, rfl, read⟩ := factor_eq_ok done
    have inner : Sound .expr Expr.toTree (expr below) :=
      sound_expr_of fun k small => ih k (by omega)
    cases read with
    | num isNum =>
      rw [Expr.toTree]
      exact .num isNum
    | var isName =>
      rw [Expr.toTree]
      exact .var isName
    | call isName isOpening read =>
      rw [Expr.toTree]
      exact .call isName isOpening (sound_arguments inner _ _ _ read)
    | group isOpening read isClosing => exact .group isOpening (inner _ _ _ read) isClosing

theorem sound_expr (levels : Nat) : Sound .expr Expr.toTree (expr levels) :=
  sound_expr_of fun k _ => sound_factor k

theorem ArgumentsRead.not_leads_rparen {args : List Expr}
    (read : ArgumentsRead levels tokens args rest) :
    ¬Leads .rparen tokens :=
  (sound_argumentList (sound_expr levels) read).not_leads_rparen rfl

theorem sound_condition {cond : Expr} (read : ConditionReads levels tokens cond rest) :
    Derives .condition tokens cond.toTree rest := by
  cases read with
  | single read => exact .conditionExpr (sound_expr _ _ _ _ read)
  | compare first isOp second =>
    rw [Expr.toTree, Operator.kind, ← isOp]
    exact .compare (sound_expr _ _ _ _ first) isOp (sound_expr _ _ _ _ second)

theorem sound_parameterList {params : List String} (read : ParametersRead tokens params rest) :
    Derives .parameterList tokens (params.map Tree.param) rest := by
  induction read with
  | last isName isClosing => exact .parameterLast isName isClosing
  | more isName isComma _ ih => exact .parameterMore isName isComma ih

theorem sound_statement (levels : Nat) : Sound .statement Stmt.toTree (statement levels) := by
  induction levels using Nat.strongRecOn with
  | ind levels ih =>
    intro tokens result rest done
    obtain ⟨below, rfl, read⟩ := statement_eq_ok done
    have inner := ih below (Nat.lt_succ_self _)
    cases read with
    | assign isName isMark read isSemi =>
      exact .assign isName isMark (sound_expr _ _ _ _ read) isSemi
    | ifThen isWord test read noElse =>
      obtain ⟨opening, closing, cond, rfl, isOpening, condition, isClosing⟩ := guard_eq_ok test
      exact .ifThen isWord isOpening (sound_condition condition) isClosing (inner _ _ _ read) noElse
    | ifElse isWord test read isElse alternative =>
      obtain ⟨opening, closing, cond, rfl, isOpening, condition, isClosing⟩ := guard_eq_ok test
      exact .ifElse isWord isOpening (sound_condition condition) isClosing (inner _ _ _ read) isElse
        (inner _ _ _ alternative)
    | loop isWord test read =>
      obtain ⟨opening, closing, cond, rfl, isOpening, condition, isClosing⟩ := guard_eq_ok test
      exact .loop isWord isOpening (sound_condition condition) isClosing (inner _ _ _ read)
    | print isWord isOpening read isClosing isSemi =>
      exact .print isWord isOpening (sound_expr _ _ _ _ read) isClosing isSemi
    | function isWord isName list read =>
      obtain ⟨opening, params, rfl, isOpening, listed⟩ := parameters_eq_ok list
      refine .function isWord isName isOpening ?_ (inner _ _ _ read)
      rcases listed with ⟨rfl, closing, rfl, isClosing⟩ | listed
      · exact .parametersNone isClosing
      · exact .parametersSome (sound_parameterList listed)

theorem sound_statements {stmts : List Stmt} (done : statements tokens = .ok stmts) :
    Derives .statements tokens (stmts.map Stmt.toTree) [] := by
  fun_induction statements tokens generalizing stmts with
  | case1 =>
    cases done
    exact .statementsNil
  | case2 token rest fault read => cases done
  | case3 token rest first left read fault others ih => cases done
  | case4 token rest first left read others all ih =>
    cases done
    exact .statementsCons (sound_statement _ _ _ _ read) (ih all)

/-- The rule reads a phrase with these nodes, unless it runs out of levels. -/
def Reads {α β : Type} (nodes : α → β) (rule : Parse α) (tokens : List Token) (wanted : β)
    (rest : List Token) : Prop :=
  rule tokens = .error .nestingTooDeep ∨ ∃ a, nodes a = wanted ∧ rule tokens = .ok (a, rest)

theorem Reads.bind {α β γ δ : Type} {nodes : α → β} {rule : Parse α} {wanted : β}
    {middle : List Token} {next : α → Parse γ} {results : γ → δ} {goal : δ}
    (reads : Reads nodes rule tokens wanted middle)
    (goesOn : ∀ a, nodes a = wanted → Reads results (next a) middle goal rest) :
    Reads results (rule >>= next) tokens goal rest := by
  rcases reads with deep | ⟨a, same, read⟩
  · exact .inl (bind_of_error deep)
  · rw [Reads, bind_of_ok read]
    exact goesOn a same

theorem reads_pure {α β : Type} {nodes : α → β} (a : α) :
    Reads nodes (pure a) rest (nodes a) rest := .inr ⟨a, rfl, rfl⟩

/-- The loop of a chain comes by the left part that ends here. -/
def Passes (rule : Nat → Parse Expr) (tail : Nat → Expr → Parse Expr) (tokens : List Token)
    (node : Tree) (rest : List Token) : Prop :=
  ∀ levels, rule levels tokens = .error .nestingTooDeep ∨
    ∃ left below, left.toTree = node ∧ rule levels tokens = tail below left rest

theorem Passes.reads {ofKind? : Token.Kind → Option Operator} {operand rule : Nat → Parse Expr}
    {tail : Nat → Expr → Parse Expr} {node : Tree} (loop : IsLoop ofKind? operand tail)
    (passes : Passes rule tail tokens node rest)
    (closed : ∀ token others, rest = token :: others → ofKind? token.kind = none) (levels : Nat) :
    Reads Expr.toTree (rule levels) tokens node rest := by
  rcases passes levels with deep | ⟨left, below, same, read⟩
  · exact .inl deep
  · exact .inr ⟨left, same, by rw [read, loop.eq_ok.2 (.stop closed)]⟩

theorem Passes.fold {ofKind? : Token.Kind → Option Operator} {operand rule : Nat → Parse Expr}
    {tail : Nat → Expr → Parse Expr} {op : Operator} {token : Token} {middle : List Token}
    {left right : Tree} (loop : IsLoop ofKind? operand tail)
    (passes : Passes rule tail tokens left (token :: middle)) (isOp : ofKind? token.kind = some op)
    (reads : ∀ levels, Reads Expr.toTree (operand levels) middle right rest) :
    Passes rule tail tokens (.binary op.kind left right) rest := by
  intro levels
  rcases passes levels with deep | ⟨first, below, same, read⟩
  · exact .inl deep
  · have taken : operator? ofKind? (token :: middle) = .ok (some op, middle) :=
      operator?_eq_ok.2 ⟨token, rfl, isOp⟩
    rw [read, loop, bind_of_ok taken]
    cases below with
    | zero => exact .inl rfl
    | succ below =>
      rcases reads below with deep | ⟨second, sameSecond, readSecond⟩
      · exact .inl (bind_of_error deep)
      · refine .inr ⟨.binary op first second, below, ?_, bind_of_ok readSecond⟩
        rw [Expr.toTree, same, sameSecond]

/-- What the parser makes of a phrase. A value also depends on what follows, which must not
carry it on. -/
def Complete : (phrase : Phrase) → List Token → phrase.Nodes → List Token → Prop
  | .factor, tokens, node, rest =>
    ¬Leads .lparen rest → ∀ levels, Reads Expr.toTree (factor levels) tokens node rest
  | .term, tokens, node, rest => ¬Leads .lparen rest → Passes term termTail tokens node rest
  | .expr, tokens, node, rest =>
    ¬Leads .lparen rest →
      (∀ token others, rest = token :: others → multiplicative? token.kind = none) →
      Passes expr exprTail tokens node rest
  | .argumentList, tokens, nodes, rest => ∀ levels bound, tokens.length ≤ bound →
    Reads Expr.toTrees (argumentsFrom levels bound) tokens nodes rest
  | .arguments, tokens, nodes, rest =>
    ∀ levels, Reads Expr.toTrees (arguments levels) tokens nodes rest
  | .condition, tokens, node, rest => Leads .rparen rest →
    ∀ levels, Reads Expr.toTree (condition levels) tokens node rest
  | .parameterList, tokens, nodes, rest =>
    ∃ params, params.map Tree.param = nodes ∧ ParametersRead tokens params rest
  | .parameters, tokens, nodes, rest => ∀ opening : Token, opening.kind = .lparen →
    Reads (List.map Tree.param) parameters (opening :: tokens) nodes rest
  | .statement, tokens, node, rest =>
    ∀ levels, Reads Stmt.toTree (statement levels) tokens node rest
  | .statements, tokens, nodes, rest => rest = [] →
    statements tokens = .error .nestingTooDeep ∨
      ∃ stmts, stmts.map Stmt.toTree = nodes ∧ statements tokens = .ok stmts
  | .program, tokens, node, _ =>
    Program.ofTokens tokens = .error .nestingTooDeep ∨
      ∃ program, program.toTree = node ∧ Program.ofTokens tokens = .ok program

theorem complete_exprTerm {value : Tree} (term : Complete .term tokens value rest) :
    Complete .expr tokens value rest := by
  intro noCall noProduct levels
  rw [expr]
  rcases (term noCall).reads isLoop_termTail noProduct levels with deep | ⟨first, same, read⟩
  · exact .inl (bind_of_error deep)
  · exact .inr ⟨first, levels, same, bind_of_ok read⟩

theorem complete_termFactor {value : Tree} (factor : Complete .factor tokens value rest) :
    Complete .term tokens value rest := by
  intro noCall levels
  rw [term]
  rcases factor noCall levels with deep | ⟨first, same, read⟩
  · exact .inl (bind_of_error deep)
  · exact .inr ⟨first, levels, same, bind_of_ok read⟩

theorem complete_exprFold {op : Token} {middle : List Token} {left right : Tree}
    (first : Complete .expr tokens left (op :: middle))
    (isOp : op.kind = .arith .add ∨ op.kind = .arith .sub)
    (second : Complete .term middle right rest) :
    Complete .expr tokens (.binary op.kind left right) rest := by
  intro noCall noProduct
  have opens : ¬Leads .lparen (op :: middle) := by
    rw [Token.leads_cons]
    rcases isOp with isOp | isOp <;> simp [isOp]
  have passes := first opens fun token others same => by
    cases same
    rcases isOp with isOp | isOp <;> rw [isOp] <;> rfl
  obtain ⟨found, isSum⟩ : ∃ found, additive? op.kind = some found := by
    rcases isOp with isOp | isOp <;> rw [isOp] <;> exact ⟨_, rfl⟩
  rw [← (additive?_eq_some isSum).1]
  exact passes.fold isLoop_exprTail isSum ((second noCall).reads isLoop_termTail noProduct)

theorem complete_termFold {op : Token} {middle : List Token} {left right : Tree}
    (first : Complete .term tokens left (op :: middle))
    (isOp : op.kind = .arith .mul ∨ op.kind = .arith .div)
    (second : Complete .factor middle right rest) :
    Complete .term tokens (.binary op.kind left right) rest := by
  intro noCall
  have opens : ¬Leads .lparen (op :: middle) := by
    rw [Token.leads_cons]
    rcases isOp with isOp | isOp <;> simp [isOp]
  obtain ⟨found, isProduct⟩ : ∃ found, multiplicative? op.kind = some found := by
    rcases isOp with isOp | isOp <;> rw [isOp] <;> exact ⟨_, rfl⟩
  rw [← (multiplicative?_eq_some isProduct).1]
  exact (first opens).fold isLoop_termTail isProduct (second noCall)

/-- The marks that can follow a value without carrying it on. -/
def Ends (mark : Token) : Prop :=
  mark.kind ≠ .lparen ∧ ∀ op, mark.kind ≠ .arith op

theorem ends_of_kind {mark : Token} {kind : Token.Kind} (isKind : mark.kind = kind)
    (ends : kind ≠ .lparen ∧ ∀ op, kind ≠ .arith op) : Ends mark := by
  rwa [Ends, isKind]

theorem Ends.noProduct {mark : Token} (ends : Ends mark) (token : Token)
    (others : List Token) (same : mark :: rest = token :: others) :
    multiplicative? token.kind = none := by
  cases same
  refine Option.eq_none_iff_forall_ne_some.2 fun op found => ?_
  rcases (multiplicative?_eq_some found).2 with isOp | isOp <;> exact ends.2 _ isOp

theorem Ends.noSum {mark : Token} (ends : Ends mark) (token : Token) (others : List Token)
    (same : mark :: rest = token :: others) : additive? token.kind = none := by
  cases same
  refine Option.eq_none_iff_forall_ne_some.2 fun op found => ?_
  rcases (additive?_eq_some found).2 with isOp | isOp <;> exact ends.2 _ isOp

theorem expr_of_factor {mark : Token} {value : Expr}
    (read : factor levels tokens = .ok (value, mark :: rest)) (ends : Ends mark) :
    expr levels tokens = .ok (value, mark :: rest) :=
  expr_eq_ok.2 ⟨_, _, term_eq_ok.2 ⟨_, _, read, .stop ends.noProduct⟩, .stop ends.noSum⟩

theorem reads_expr {mark : Token} {value : Tree}
    (complete : Complete .expr tokens value (mark :: rest))
    (ends : Ends mark) (levels : Nat) :
    Reads Expr.toTree (expr levels) tokens value (mark :: rest) :=
  (complete (mt Token.leads_cons.1 ends.1) ends.noProduct).reads isLoop_exprTail
    ends.noSum levels

theorem Reads.expect {β γ : Type} {kind : Token.Kind} {next : Token → Parse β} {nodes : β → γ}
    {goal : γ} {token : Token} (isKind : token.kind = kind)
    (goesOn : Reads nodes (next token) tokens goal rest) :
    Reads nodes (Parse.expect kind >>= next) (token :: tokens) goal rest := by
  rw [Reads, bind_of_ok (expect_eq_ok.2 ⟨rfl, isKind⟩)]
  exact goesOn

theorem Reads.oneOf {β γ : Type} {kinds : List Token.Kind} {next : Token → Parse β} {nodes : β → γ}
    {goal : γ} {token : Token} (isKind : token.kind ∈ kinds)
    (goesOn : Reads nodes (next token) tokens goal rest) :
    Reads nodes (Parse.oneOf kinds >>= next) (token :: tokens) goal rest := by
  rw [Reads, bind_of_ok (oneOf_eq_ok.2 ⟨rfl, isKind⟩)]
  exact goesOn

theorem Reads.skipped {β γ : Type} {kind : Token.Kind} {next : Bool → Parse β} {nodes : β → γ}
    {goal : γ} {token : Token} (isKind : token.kind = kind)
    (goesOn : Reads nodes (next true) tokens goal rest) :
    Reads nodes (Parse.skip? kind >>= next) (token :: tokens) goal rest := by
  have skipped : Parse.skip? kind (token :: tokens) = .ok (true, tokens) :=
    skip?_eq_ok.2 ⟨token, rfl, isKind⟩
  rw [Reads, bind_of_ok skipped]
  exact goesOn

theorem Reads.notSkipped {β γ : Type} {kind : Token.Kind} {next : Bool → Parse β} {nodes : β → γ}
    {goal : γ} (noneLeads : ¬Leads kind tokens)
    (goesOn : Reads nodes (next false) tokens goal rest) :
    Reads nodes (Parse.skip? kind >>= next) tokens goal rest := by
  have skipped : Parse.skip? kind tokens = .ok (false, tokens) := skip?_eq_ok.2 ⟨rfl, noneLeads⟩
  rw [Reads, bind_of_ok skipped]
  exact goesOn

/-- Without levels nothing is read, so only what happens with one level more matters. -/
theorem reads_factor {node : Tree}
    (reads : ∀ below, Reads Expr.toTree (factor (below + 1)) tokens node rest) (levels : Nat) :
    Reads Expr.toTree (factor levels) tokens node rest := by
  cases levels with
  | zero =>
    rw [factor]
    exact .inl rfl
  | succ below => exact reads below

theorem complete_num {token : Token} (isNum : token.kind = .num) :
    Complete .factor (token :: rest) (.num token.text) rest := fun _ =>
  reads_factor fun _ => .inr ⟨_, rfl, (FactorReads.num isNum).eq_ok⟩

theorem complete_var {token : Token} (isName : token.kind = .ident) :
    Complete .factor (token :: rest) (.ident token.text) rest := fun noCall =>
  reads_factor fun _ => .inr ⟨_, rfl, (FactorReads.var isName noCall).eq_ok⟩

theorem complete_call {name opening : Token} {args : List Tree} (isName : name.kind = .ident)
    (isOpening : opening.kind = .lparen) (arguments : Complete .arguments tokens args rest) :
    Complete .factor (name :: opening :: tokens) (.call name.text args) rest := by
  intro _
  refine reads_factor fun levels => ?_
  rw [factor]
  refine .oneOf (by simp [isName]) ?_
  simp only [isName]
  refine .skipped isOpening ((arguments levels).bind ?_)
  rintro exprs rfl
  exact reads_pure (Expr.call name.text exprs)

theorem complete_group {opening closing : Token} {value : Tree} (isOpening : opening.kind = .lparen)
    (inner : Complete .expr tokens value (closing :: rest)) (isClosing : closing.kind = .rparen) :
    Complete .factor (opening :: tokens) value rest := by
  intro _
  refine reads_factor fun levels => ?_
  rw [factor]
  refine .oneOf (by simp [isOpening]) ?_
  simp only [isOpening]
  refine (reads_expr inner (ends_of_kind isClosing (by simp)) levels).bind ?_
  rintro inside rfl
  exact .expect isClosing (reads_pure inside)

theorem complete_argumentLast {closing : Token} {arg : Tree}
    (inner : Complete .expr tokens arg (closing :: rest)) (isClosing : closing.kind = .rparen) :
    Complete .argumentList tokens [arg] rest := by
  intro levels bound _
  rw [argumentsFrom]
  refine (reads_expr inner (ends_of_kind isClosing (by simp)) levels).bind ?_
  rintro last rfl
  refine .oneOf (by simp [isClosing]) ?_
  simp only [isClosing]
  exact reads_pure [last]

theorem complete_argumentMore {comma : Token} {middle : List Token} {arg : Tree} {args : List Tree}
    (derives : Derives .expr tokens arg (comma :: middle))
    (inner : Complete .expr tokens arg (comma :: middle)) (isComma : comma.kind = .comma)
    (others : Complete .argumentList middle args rest) :
    Complete .argumentList tokens (arg :: args) rest := by
  intro levels bound enough
  have shorter := derives.length_le
  rw [List.length_cons] at shorter
  obtain ⟨less, rfl⟩ : ∃ less, bound = less + 1 := ⟨bound - 1, by omega⟩
  rw [argumentsFrom]
  refine (reads_expr inner (ends_of_kind isComma (by simp)) levels).bind ?_
  rintro first rfl
  refine .oneOf (by simp [isComma]) ?_
  simp only [isComma]
  refine (others levels less (by omega)).bind ?_
  rintro list rfl
  exact reads_pure (first :: list)

theorem complete_argumentsNone {closing : Token} (isClosing : closing.kind = .rparen) :
    Complete .arguments (closing :: rest) [] rest := by
  intro levels
  rw [arguments]
  exact .skipped isClosing (reads_pure [])

theorem complete_argumentsSome {args : List Tree} (derives : Derives .argumentList tokens args rest)
    (list : Complete .argumentList tokens args rest) : Complete .arguments tokens args rest := by
  intro levels
  rw [arguments]
  exact .notSkipped (derives.not_leads_rparen rfl) (list levels _ (Nat.le_refl _))

theorem complete_conditionExpr {value : Tree} (inner : Complete .expr tokens value rest) :
    Complete .condition tokens value rest := by
  rintro ⟨closing, others, rfl, isClosing⟩ levels
  rw [condition]
  refine (reads_expr inner (ends_of_kind isClosing (by simp)) levels).bind ?_
  rintro expr rfl
  have noneTaken : operator? relational? (closing :: others) = .ok (none, closing :: others) :=
    operator?_eq_ok.2 ⟨rfl, by rintro token left ⟨⟩; rw [isClosing]; rfl⟩
  rw [Reads, bind_of_ok noneTaken]
  exact reads_pure expr

theorem complete_compare {op : Token} {rel : RelOp} {middle : List Token} {left right : Tree}
    (first : Complete .expr tokens left (op :: middle)) (isOp : op.kind = .rel rel)
    (second : Complete .expr middle right rest) :
    Complete .condition tokens (.binary op.kind left right) rest := by
  rintro ⟨closing, others, rfl, isClosing⟩ levels
  rw [condition]
  refine (reads_expr first (ends_of_kind isOp (by simp)) levels).bind ?_
  rintro leftExpr rfl
  have taken : operator? relational? (op :: middle) = .ok (some (.rel rel), middle) :=
    operator?_eq_ok.2 ⟨op, rfl, by rw [isOp]; rfl⟩
  rw [Reads, bind_of_ok taken]
  refine (reads_expr second (ends_of_kind isClosing (by simp)) levels).bind ?_
  rintro rightExpr rfl
  rw [isOp]
  exact reads_pure (Expr.binary (.rel rel) leftExpr rightExpr)

theorem reads_guard {opening closing : Token} {cond : Tree} (isOpening : opening.kind = .lparen)
    (test : Complete .condition tokens cond (closing :: rest)) (isClosing : closing.kind = .rparen)
    (levels : Nat) : Reads Expr.toTree (guard levels) (opening :: tokens) cond rest := by
  rw [guard]
  refine .expect isOpening ((test (Token.leads_cons.2 isClosing) levels).bind ?_)
  rintro expr rfl
  exact .expect isClosing (reads_pure expr)

theorem complete_parametersNone {closing : Token} (isClosing : closing.kind = .rparen) :
    Complete .parameters (closing :: rest) [] rest := fun _ isOpening =>
  .inr ⟨[], rfl, parameters_of_none isOpening isClosing⟩

theorem complete_parametersSome {params : List Tree}
    (list : Complete .parameterList tokens params rest) :
    Complete .parameters tokens params rest := by
  intro opening isOpening
  obtain ⟨names, rfl, read⟩ := list
  exact .inr ⟨names, rfl, parameters_of_read isOpening read⟩

/-- Without levels nothing is read, so only what happens with one level more matters. -/
theorem reads_statement {node : Tree}
    (reads : ∀ below, Reads Stmt.toTree (statement (below + 1)) tokens node rest) (levels : Nat) :
    Reads Stmt.toTree (statement levels) tokens node rest := by
  cases levels with
  | zero => exact .inl rfl
  | succ below => exact reads below

theorem complete_assign {name mark semi : Token} {value : Tree} (isName : name.kind = .ident)
    (isMark : mark.kind = .assign) (inner : Complete .expr tokens value (semi :: rest))
    (isSemi : semi.kind = .semi) :
    Complete .statement (name :: mark :: tokens) (.assign name.text value) rest := by
  refine reads_statement fun levels => ?_
  rw [statement]
  refine .oneOf (by simp [isName]) ?_
  simp only [isName]
  refine .expect isMark ((reads_expr inner (ends_of_kind isSemi (by simp)) levels).bind ?_)
  rintro expr rfl
  exact .expect isSemi (reads_pure (Stmt.assign name.text expr))

theorem complete_ifThen {word opening closing : Token} {middle : List Token} {cond body : Tree}
    (isWord : word.kind = .ifWord) (isOpening : opening.kind = .lparen)
    (test : Complete .condition tokens cond (closing :: middle))
    (isClosing : closing.kind = .rparen) (inner : Complete .statement middle body rest)
    (noElse : ¬Leads .elseWord rest) :
    Complete .statement (word :: opening :: tokens) (.ifThen cond body) rest := by
  refine reads_statement fun levels => ?_
  rw [statement]
  refine .oneOf (by simp [isWord]) ?_
  simp only [isWord]
  refine (reads_guard isOpening test isClosing levels).bind ?_
  rintro condExpr rfl
  refine (inner levels).bind ?_
  rintro bodyStmt rfl
  exact .notSkipped noElse (reads_pure (Stmt.ifThen condExpr bodyStmt))

theorem complete_ifElse {word opening closing otherwise : Token} {middle last : List Token}
    {cond body other : Tree} (isWord : word.kind = .ifWord) (isOpening : opening.kind = .lparen)
    (test : Complete .condition tokens cond (closing :: middle))
    (isClosing : closing.kind = .rparen)
    (inner : Complete .statement middle body (otherwise :: last))
    (isElse : otherwise.kind = .elseWord) (alternative : Complete .statement last other rest) :
    Complete .statement (word :: opening :: tokens) (.ifElse cond body other) rest := by
  refine reads_statement fun levels => ?_
  rw [statement]
  refine .oneOf (by simp [isWord]) ?_
  simp only [isWord]
  refine (reads_guard isOpening test isClosing levels).bind ?_
  rintro condExpr rfl
  refine (inner levels).bind ?_
  rintro bodyStmt rfl
  refine .skipped isElse ((alternative levels).bind ?_)
  rintro otherStmt rfl
  exact reads_pure (Stmt.ifElse condExpr bodyStmt otherStmt)

theorem complete_loop {word opening closing : Token} {middle : List Token} {cond body : Tree}
    (isWord : word.kind = .whileWord) (isOpening : opening.kind = .lparen)
    (test : Complete .condition tokens cond (closing :: middle))
    (isClosing : closing.kind = .rparen) (inner : Complete .statement middle body rest) :
    Complete .statement (word :: opening :: tokens) (.loop cond body) rest := by
  refine reads_statement fun levels => ?_
  rw [statement]
  refine .oneOf (by simp [isWord]) ?_
  simp only [isWord]
  refine (reads_guard isOpening test isClosing levels).bind ?_
  rintro condExpr rfl
  refine (inner levels).bind ?_
  rintro bodyStmt rfl
  exact reads_pure (Stmt.loop condExpr bodyStmt)

theorem complete_print {word opening closing semi : Token} {value : Tree}
    (isWord : word.kind = .printWord) (isOpening : opening.kind = .lparen)
    (inner : Complete .expr tokens value (closing :: semi :: rest))
    (isClosing : closing.kind = .rparen) (isSemi : semi.kind = .semi) :
    Complete .statement (word :: opening :: tokens) (.print value) rest := by
  refine reads_statement fun levels => ?_
  rw [statement]
  refine .oneOf (by simp [isWord]) ?_
  simp only [isWord]
  refine .expect isOpening ((reads_expr inner (ends_of_kind isClosing (by simp)) levels).bind ?_)
  rintro expr rfl
  exact .expect isClosing (.expect isSemi (reads_pure (Stmt.print expr)))

theorem complete_function {word name opening : Token} {middle : List Token} {params : List Tree}
    {body : Tree} (isWord : word.kind = .functionWord) (isName : name.kind = .ident)
    (isOpening : opening.kind = .lparen) (list : Complete .parameters tokens params middle)
    (inner : Complete .statement middle body rest) :
    Complete .statement (word :: name :: opening :: tokens)
      (.node .function none (.ident name.text :: (params ++ [body]))) rest := by
  refine reads_statement fun levels => ?_
  rw [statement]
  refine .oneOf (by simp [isWord]) ?_
  simp only [isWord]
  refine .expect isName ((list opening isOpening).bind ?_)
  rintro names rfl
  refine (inner levels).bind ?_
  rintro bodyStmt rfl
  exact reads_pure (Stmt.function name.text names bodyStmt)

theorem complete_statementsCons {middle : List Token} {node : Tree} {nodes : List Tree}
    (derives : Derives .statement tokens node middle)
    (first : Complete .statement tokens node middle)
    (others : Complete .statements middle nodes rest) :
    Complete .statements tokens (node :: nodes) rest := by
  intro finished
  obtain ⟨token, left, rfl⟩ : ∃ token left, tokens = token :: left := by
    cases derives <;> exact ⟨_, _, rfl⟩
  rcases first maxLevels with deep | ⟨stmt, rfl, read⟩
  · exact .inl (statements_of_error deep)
  · rw [statements_of_ok read]
    rcases others finished with deep | ⟨stmts, rfl, readOthers⟩
    · exact .inl (by rw [deep])
    · exact .inr ⟨stmt :: stmts, rfl, by rw [readOthers]⟩

theorem complete_program {nodes : List Tree} (body : Complete .statements tokens nodes []) :
    Complete .program tokens (.program nodes) [] := by
  rcases body rfl with deep | ⟨stmts, rfl, read⟩
  · exact .inl (by rw [Program.ofTokens, deep])
  · exact .inr ⟨⟨stmts⟩, rfl, by rw [Program.ofTokens, read]⟩

theorem complete_of_derives {phrase : Phrase} {nodes : phrase.Nodes}
    (derives : Derives phrase tokens nodes rest) : Complete phrase tokens nodes rest := by
  induction derives with
  | program _ body => exact complete_program body
  | statementsNil =>
    rintro rfl
    exact .inr ⟨[], rfl, by rw [statements]⟩
  | statementsCons derives _ first others => exact complete_statementsCons derives first others
  | assign isName isMark _ isSemi inner => exact complete_assign isName isMark inner isSemi
  | ifThen isWord isOpening _ isClosing _ noElse test inner =>
    exact complete_ifThen isWord isOpening test isClosing inner noElse
  | ifElse isWord isOpening _ isClosing _ isElse _ test inner alternative =>
    exact complete_ifElse isWord isOpening test isClosing inner isElse alternative
  | loop isWord isOpening _ isClosing _ test inner =>
    exact complete_loop isWord isOpening test isClosing inner
  | print isWord isOpening _ isClosing isSemi inner =>
    exact complete_print isWord isOpening inner isClosing isSemi
  | function isWord isName isOpening _ _ list inner =>
    exact complete_function isWord isName isOpening list inner
  | parametersNone isClosing => exact complete_parametersNone isClosing
  | parametersSome _ list => exact complete_parametersSome list
  | parameterLast isName isClosing => exact ⟨_, rfl, .last isName isClosing⟩
  | parameterMore isName isComma _ others =>
    obtain ⟨names, rfl, read⟩ := others
    exact ⟨_, rfl, .more isName isComma read⟩
  | conditionExpr _ inner => exact complete_conditionExpr inner
  | compare _ isOp _ first second => exact complete_compare first isOp second
  | exprTerm _ term => exact complete_exprTerm term
  | exprFold _ isOp _ first second => exact complete_exprFold first isOp second
  | termFactor _ factor => exact complete_termFactor factor
  | termFold _ isOp _ first second => exact complete_termFold first isOp second
  | num isNum => exact complete_num isNum
  | var isName => exact complete_var isName
  | call isName isOpening _ arguments => exact complete_call isName isOpening arguments
  | group isOpening _ isClosing inner => exact complete_group isOpening inner isClosing
  | argumentsNone isClosing => exact complete_argumentsNone isClosing
  | argumentsSome derives list => exact complete_argumentsSome derives list
  | argumentLast _ isClosing inner => exact complete_argumentLast inner isClosing
  | argumentMore derives isComma _ inner others =>
    exact complete_argumentMore derives inner isComma others

end Parse

theorem Program.derives_of_ofTokens {tokens : List Token} {program : Program}
    (done : ofTokens tokens = .ok program) : Derives .program tokens program.toTree [] := by
  rw [ofTokens] at done
  split at done
  · cases done
  · next read =>
    cases done
    exact .program (Parse.sound_statements read)

/-- The parser accepts the phrases of the grammar and nothing else, and gives each the tree
that the grammar gives it; a phrase it does not accept nests too deeply. So what it accepts
has one tree only. -/
theorem Program.ofTokens_iff_derives (tokens : List Token) :
    (∀ tree, (ofTokens tokens).map toTree = .ok tree → Derives .program tokens tree []) ∧
      (∀ tree, Derives .program tokens tree [] → (ofTokens tokens).map toTree = .ok tree ∨
        ofTokens tokens = .error .nestingTooDeep) ∧
      (∀ program, ofTokens tokens = .ok program → ∃! tree, Derives .program tokens tree []) := by
  have complete : ∀ tree, Derives .program tokens tree [] →
      (ofTokens tokens).map toTree = .ok tree ∨ ofTokens tokens = .error .nestingTooDeep := by
    intro tree derives
    rcases Parse.complete_of_derives derives with deep | ⟨program, rfl, read⟩
    · exact .inr deep
    · exact .inl (by rw [read]; rfl)
  refine ⟨?_, complete, ?_⟩
  · intro tree done
    cases read : ofTokens tokens with
    | error fault =>
      rw [read] at done
      cases done
    | ok program =>
      rw [read] at done
      cases done
      exact derives_of_ofTokens read
  · intro program read
    refine ⟨program.toTree, derives_of_ofTokens read, fun tree derives => ?_⟩
    rcases complete tree derives with same | deep
    · rw [read] at same
      cases same
      rfl
    · rw [read] at deep
      cases deep

/-- The difference `x = 1 - 2;` has a tree and no other. -/
theorem Program.ofTokens_iff_derives_difference :
    let tokens : List Token := [⟨.ident, "x"⟩, ⟨.assign, none⟩, ⟨.num, "1"⟩, ⟨.arith .sub, none⟩,
      ⟨.num, "2"⟩, ⟨.semi, none⟩]
    Derives .program tokens
        (.program [.assign "x" (.binary (.arith .sub) (.num "1") (.num "2"))]) [] ∧
      ∃! tree, Derives .program tokens tree [] := by
  intro tokens
  have first : Parse.term 511 (tokens.drop 2) = .ok (.num "1", tokens.drop 3) :=
    Parse.term_eq_ok.2 ⟨_, _, (Parse.FactorReads.num rfl).eq_ok, .stop (by rintro _ _ ⟨⟩; rfl)⟩
  have second : Parse.term 510 (tokens.drop 4) = .ok (.num "2", tokens.drop 5) :=
    Parse.term_eq_ok.2 ⟨_, _, (Parse.FactorReads.num rfl).eq_ok, .stop (by rintro _ _ ⟨⟩; rfl)⟩
  have value : Parse.expr 511 (tokens.drop 2) =
      .ok (.binary (.arith .sub) (.num "1") (.num "2"), tokens.drop 5) :=
    Parse.expr_eq_ok.2 ⟨_, _, first, .more rfl second (.stop (by rintro _ _ ⟨⟩; rfl))⟩
  have read : ofTokens tokens = .ok ⟨[.assign "x" (.binary (.arith .sub) (.num "1") (.num "2"))]⟩ :=
    ofTokens_of_statement (Parse.StatementReads.assign rfl rfl value rfl).eq_ok
  exact ⟨(ofTokens_iff_derives tokens).1 _ (by rw [read]; rfl),
    (ofTokens_iff_derives tokens).2.2 _ read⟩

end ImpToC
