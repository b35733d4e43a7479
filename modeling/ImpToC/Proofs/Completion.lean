import ImpToC.Proofs.Parsing

/-! What can stand behind a phrase, and how a phrase that has begun can be completed. A phrase
of the grammar depends on the tokens behind it in one way only: an `if` without `else` may not
be followed by an `else`. So whole phrases are put together without regard to what follows. -/
namespace ImpToC

open Token (Leads)

namespace Token

variable {kind : Kind} {used rest other : List Token}

theorem leads_same {token : Token} (leads : Leads kind (token :: other)) :
    Leads kind (token :: rest) :=
  leads_cons.2 (leads_cons.1 leads)

theorem leads_append (leads : Leads kind other → Leads kind rest) :
    Leads kind (used ++ other) → Leads kind (used ++ rest) := by
  cases used with
  | nil => exact leads
  | cons token used => exact leads_same

theorem leads_of_head? (same : other.head? = rest.head?) (leads : Leads kind other) :
    Leads kind rest := by
  obtain ⟨token, others, rfl, isKind⟩ := leads
  obtain ⟨others, rfl⟩ := List.head?_eq_some_iff.1 same.symm
  exact leads_cons.2 isKind

theorem head?_append (same : other.head? = rest.head?) :
    (used ++ other).head? = (used ++ rest).head? := by
  rw [List.head?_append, List.head?_append, same]

end Token

/-- Behind a phrase there can stand something else, if that brings no new `else`. -/
theorem Derives.exists_used {phrase : Phrase} {tokens rest : List Token} {nodes : phrase.Nodes}
    (derives : Derives phrase tokens nodes rest) (inside : phrase ≠ .program) :
    ∃ used, tokens = used ++ rest ∧ ∀ other, (Leads .elseWord other → Leads .elseWord rest) →
      Derives phrase (used ++ other) nodes other := by
  induction derives with
  | program => exact absurd rfl inside
  | statementsNil => exact ⟨[], rfl, fun other _ => .statementsNil⟩
  | statementsCons _ _ ihFirst ihOthers =>
    obtain ⟨first, rfl, again⟩ := ihFirst nofun
    obtain ⟨others, rfl, goOn⟩ := ihOthers nofun
    refine ⟨first ++ others, (List.append_assoc ..).symm, fun other noElse => ?_⟩
    rw [List.append_assoc]
    exact .statementsCons (again _ (Token.leads_append noElse)) (goOn other noElse)
  | @assign name mark semi _ _ _ isName isMark _ isSemi ih =>
    obtain ⟨value, rfl, again⟩ := ih nofun
    refine ⟨name :: mark :: (value ++ [semi]), by simp, fun other _ => ?_⟩
    simp only [List.cons_append, List.append_assoc, List.nil_append]
    exact .assign isName isMark (again _ Token.leads_same) isSemi
  | @ifThen word opening closing _ _ _ _ _ isWord isOpening _ isClosing _ noElse ihTest ihInner =>
    obtain ⟨test, rfl, againTest⟩ := ihTest nofun
    obtain ⟨inner, rfl, againInner⟩ := ihInner nofun
    refine ⟨word :: opening :: (test ++ closing :: inner), by simp, fun other same => ?_⟩
    simp only [List.cons_append, List.append_assoc]
    -- only here it matters what follows: an `else` would belong to this `if`
    exact .ifThen isWord isOpening (againTest _ Token.leads_same) isClosing (againInner other same)
      (mt same noElse)
  | @ifElse word opening closing otherwise _ _ _ _ _ _ _ isWord isOpening _ isClosing _ isElse _
      ihTest ihInner ihOther =>
    obtain ⟨test, rfl, againTest⟩ := ihTest nofun
    obtain ⟨inner, rfl, againInner⟩ := ihInner nofun
    obtain ⟨last, rfl, againLast⟩ := ihOther nofun
    refine ⟨word :: opening :: (test ++ closing :: (inner ++ otherwise :: last)), by simp,
      fun other same => ?_⟩
    simp only [List.cons_append, List.append_assoc]
    exact .ifElse isWord isOpening (againTest _ Token.leads_same) isClosing
      (againInner _ Token.leads_same) isElse (againLast other same)
  | @loop word opening closing _ _ _ _ _ isWord isOpening _ isClosing _ ihTest ihInner =>
    obtain ⟨test, rfl, againTest⟩ := ihTest nofun
    obtain ⟨inner, rfl, againInner⟩ := ihInner nofun
    refine ⟨word :: opening :: (test ++ closing :: inner), by simp, fun other same => ?_⟩
    simp only [List.cons_append, List.append_assoc]
    exact .loop isWord isOpening (againTest _ Token.leads_same) isClosing (againInner other same)
  | @print word opening closing semi _ _ _ isWord isOpening _ isClosing isSemi ih =>
    obtain ⟨value, rfl, again⟩ := ih nofun
    refine ⟨word :: opening :: (value ++ [closing, semi]), by simp, fun other _ => ?_⟩
    simp only [List.cons_append, List.append_assoc, List.nil_append]
    exact .print isWord isOpening (again _ Token.leads_same) isClosing isSemi
  | @function word name opening _ _ _ _ _ isWord isName isOpening _ _ ihParams ihInner =>
    obtain ⟨params, rfl, againParams⟩ := ihParams nofun
    obtain ⟨inner, rfl, againInner⟩ := ihInner nofun
    refine ⟨word :: name :: opening :: (params ++ inner), by simp, fun other same => ?_⟩
    simp only [List.cons_append, List.append_assoc]
    exact .function isWord isName isOpening (againParams _ (Token.leads_append same))
      (againInner other same)
  | @parametersNone closing _ isClosing =>
    exact ⟨[closing], rfl, fun _ _ => .parametersNone isClosing⟩
  | parametersSome _ ih =>
    obtain ⟨list, rfl, again⟩ := ih nofun
    exact ⟨list, rfl, fun other same => .parametersSome (again other same)⟩
  | @parameterLast name closing _ isName isClosing =>
    exact ⟨[name, closing], rfl, fun _ _ => .parameterLast isName isClosing⟩
  | @parameterMore name comma _ _ _ isName isComma _ ih =>
    obtain ⟨others, rfl, again⟩ := ih nofun
    exact ⟨name :: comma :: others, rfl, fun other same =>
      .parameterMore isName isComma (again other same)⟩
  | conditionExpr _ ih =>
    obtain ⟨value, rfl, again⟩ := ih nofun
    exact ⟨value, rfl, fun other same => .conditionExpr (again other same)⟩
  | @compare op _ _ _ _ _ _ _ isOp _ ihFirst ihSecond =>
    obtain ⟨first, rfl, againFirst⟩ := ihFirst nofun
    obtain ⟨second, rfl, againSecond⟩ := ihSecond nofun
    refine ⟨first ++ op :: second, by simp, fun other same => ?_⟩
    rw [List.append_assoc, List.cons_append]
    exact .compare (againFirst _ Token.leads_same) isOp (againSecond other same)
  | exprTerm _ ih =>
    obtain ⟨value, rfl, again⟩ := ih nofun
    exact ⟨value, rfl, fun other same => .exprTerm (again other same)⟩
  | @exprFold op _ _ _ _ _ _ isOp _ ihFirst ihSecond =>
    obtain ⟨first, rfl, againFirst⟩ := ihFirst nofun
    obtain ⟨second, rfl, againSecond⟩ := ihSecond nofun
    refine ⟨first ++ op :: second, by simp, fun other same => ?_⟩
    rw [List.append_assoc, List.cons_append]
    exact .exprFold (againFirst _ Token.leads_same) isOp (againSecond other same)
  | termFactor _ ih =>
    obtain ⟨value, rfl, again⟩ := ih nofun
    exact ⟨value, rfl, fun other same => .termFactor (again other same)⟩
  | @termFold op _ _ _ _ _ _ isOp _ ihFirst ihSecond =>
    obtain ⟨first, rfl, againFirst⟩ := ihFirst nofun
    obtain ⟨second, rfl, againSecond⟩ := ihSecond nofun
    refine ⟨first ++ op :: second, by simp, fun other same => ?_⟩
    rw [List.append_assoc, List.cons_append]
    exact .termFold (againFirst _ Token.leads_same) isOp (againSecond other same)
  | @num token _ isNum => exact ⟨[token], rfl, fun _ _ => .num isNum⟩
  | @var token _ isName => exact ⟨[token], rfl, fun _ _ => .var isName⟩
  | @call name opening _ _ _ isName isOpening _ ih =>
    obtain ⟨args, rfl, again⟩ := ih nofun
    exact ⟨name :: opening :: args, rfl, fun other same =>
      .call isName isOpening (again other same)⟩
  | @group opening closing _ _ _ isOpening _ isClosing ih =>
    obtain ⟨value, rfl, again⟩ := ih nofun
    refine ⟨opening :: (value ++ [closing]), by simp, fun other _ => ?_⟩
    simp only [List.cons_append, List.append_assoc, List.nil_append]
    exact .group isOpening (again _ Token.leads_same) isClosing
  | @argumentsNone closing _ isClosing =>
    exact ⟨[closing], rfl, fun _ _ => .argumentsNone isClosing⟩
  | argumentsSome _ ih =>
    obtain ⟨list, rfl, again⟩ := ih nofun
    exact ⟨list, rfl, fun other same => .argumentsSome (again other same)⟩
  | @argumentLast closing _ _ _ _ isClosing ih =>
    obtain ⟨value, rfl, again⟩ := ih nofun
    refine ⟨value ++ [closing], by simp, fun other _ => ?_⟩
    rw [List.append_assoc, List.singleton_append]
    exact .argumentLast (again _ Token.leads_same) isClosing
  | @argumentMore comma _ _ _ _ _ _ isComma _ ihFirst ihOthers =>
    obtain ⟨first, rfl, againFirst⟩ := ihFirst nofun
    obtain ⟨others, rfl, againOthers⟩ := ihOthers nofun
    refine ⟨first ++ comma :: others, by simp, fun other same => ?_⟩
    rw [List.append_assoc, List.cons_append]
    exact .argumentMore (againFirst _ Token.leads_same) isComma (againOthers other same)

theorem Derives.before {phrase : Phrase} {used rest other : List Token} {nodes : phrase.Nodes}
    (derives : Derives phrase (used ++ rest) nodes rest) (inside : phrase ≠ .program)
    (noElse : Leads .elseWord other → Leads .elseWord rest) :
    Derives phrase (used ++ other) nodes other := by
  obtain ⟨found, same, again⟩ := derives.exists_used inside
  rw [List.append_cancel_right same]
  exact again other noElse

/-- These tokens are a whole phrase, in front of all that does not begin with `else`. -/
def Phrase.Whole (phrase : Phrase) (tokens : List Token) : Prop :=
  ∀ rest, ¬Leads .elseWord rest → ∃ nodes, Derives phrase (tokens ++ rest) nodes rest

namespace Phrase

variable {front tokens : List Token}

theorem not_else {token : Token} {kind : Token.Kind} {rest : List Token}
    (isKind : token.kind = kind) (other : kind ≠ .elseWord) : ¬Leads .elseWord (token :: rest) := by
  rw [Token.leads_cons, isKind]
  exact other

theorem whole_of_derives {phrase : Phrase} {rest : List Token} {nodes : phrase.Nodes}
    (derives : Derives phrase (tokens ++ rest) nodes rest) (inside : phrase ≠ .program) :
    phrase.Whole tokens :=
  fun _ noElse => ⟨nodes, derives.before inside fun leads => absurd leads noElse⟩

theorem whole_num {token : Token} (isNum : token.kind = .num) : factor.Whole [token] :=
  fun _ _ => ⟨_, .num isNum⟩

theorem whole_var {token : Token} (isName : token.kind = .ident) : factor.Whole [token] :=
  fun _ _ => ⟨_, .var isName⟩

theorem whole_call {name opening : Token} (isName : name.kind = .ident)
    (isOpening : opening.kind = .lparen) (args : arguments.Whole tokens) :
    factor.Whole (name :: opening :: tokens) := by
  intro rest noElse
  obtain ⟨nodes, derives⟩ := args rest noElse
  exact ⟨_, .call isName isOpening derives⟩

theorem whole_group {opening closing : Token} (isOpening : opening.kind = .lparen)
    (value : expr.Whole tokens) (isClosing : closing.kind = .rparen) :
    factor.Whole (opening :: (tokens ++ [closing])) := by
  intro rest _
  obtain ⟨node, derives⟩ := value (closing :: rest) (not_else isClosing nofun)
  rw [List.cons_append, List.append_assoc, List.singleton_append]
  exact ⟨_, .group isOpening derives isClosing⟩

theorem whole_term (value : factor.Whole tokens) : term.Whole tokens := by
  intro rest noElse
  obtain ⟨node, derives⟩ := value rest noElse
  exact ⟨_, .termFactor derives⟩

theorem whole_expr (value : term.Whole tokens) : expr.Whole tokens := by
  intro rest noElse
  obtain ⟨node, derives⟩ := value rest noElse
  exact ⟨_, .exprTerm derives⟩

theorem whole_product {op : Token} (left : term.Whole front)
    (isOp : op.kind = .arith .mul ∨ op.kind = .arith .div) (right : factor.Whole tokens) :
    term.Whole (front ++ op :: tokens) := by
  intro rest noElse
  have goesOn : ¬Leads .elseWord (op :: (tokens ++ rest)) := by
    rcases isOp with isOp | isOp <;> exact not_else isOp nofun
  obtain ⟨first, derivesFirst⟩ := left _ goesOn
  obtain ⟨second, derivesSecond⟩ := right rest noElse
  rw [List.append_assoc, List.cons_append]
  exact ⟨_, .termFold derivesFirst isOp derivesSecond⟩

theorem whole_sum {op : Token} (left : expr.Whole front)
    (isOp : op.kind = .arith .add ∨ op.kind = .arith .sub) (right : term.Whole tokens) :
    expr.Whole (front ++ op :: tokens) := by
  intro rest noElse
  have goesOn : ¬Leads .elseWord (op :: (tokens ++ rest)) := by
    rcases isOp with isOp | isOp <;> exact not_else isOp nofun
  obtain ⟨first, derivesFirst⟩ := left _ goesOn
  obtain ⟨second, derivesSecond⟩ := right rest noElse
  rw [List.append_assoc, List.cons_append]
  exact ⟨_, .exprFold derivesFirst isOp derivesSecond⟩

theorem whole_argumentLast {closing : Token} (arg : expr.Whole tokens)
    (isClosing : closing.kind = .rparen) : argumentList.Whole (tokens ++ [closing]) := by
  intro rest _
  obtain ⟨node, derives⟩ := arg (closing :: rest) (not_else isClosing nofun)
  rw [List.append_assoc, List.singleton_append]
  exact ⟨_, .argumentLast derives isClosing⟩

theorem whole_zero : expr.Whole [⟨.num, none⟩] := whole_expr (whole_term (whole_num rfl))

theorem whole_argumentMore {comma : Token} (arg : expr.Whole front) (isComma : comma.kind = .comma)
    (args : argumentList.Whole tokens) : argumentList.Whole (front ++ comma :: tokens) := by
  intro rest noElse
  obtain ⟨first, derivesFirst⟩ := arg (comma :: (tokens ++ rest)) (not_else isComma nofun)
  obtain ⟨others, derivesOthers⟩ := args rest noElse
  rw [List.append_assoc, List.cons_append]
  exact ⟨_, .argumentMore derivesFirst isComma derivesOthers⟩

theorem whole_arguments (list : argumentList.Whole tokens) : arguments.Whole tokens := by
  intro rest noElse
  obtain ⟨nodes, derives⟩ := list rest noElse
  exact ⟨_, .argumentsSome derives⟩

theorem whole_condition (value : expr.Whole tokens) : condition.Whole tokens := by
  intro rest noElse
  obtain ⟨node, derives⟩ := value rest noElse
  exact ⟨_, .conditionExpr derives⟩

theorem whole_compare {op : Token} {rel : RelOp} (left : expr.Whole front)
    (isOp : op.kind = .rel rel) (right : expr.Whole tokens) :
    condition.Whole (front ++ op :: tokens) := by
  intro rest noElse
  obtain ⟨first, derivesFirst⟩ := left (op :: (tokens ++ rest)) (not_else isOp nofun)
  obtain ⟨second, derivesSecond⟩ := right rest noElse
  rw [List.append_assoc, List.cons_append]
  exact ⟨_, .compare derivesFirst isOp derivesSecond⟩

theorem whole_parameterLast {name closing : Token} (isName : name.kind = .ident)
    (isClosing : closing.kind = .rparen) : parameterList.Whole [name, closing] :=
  fun _ _ => ⟨_, .parameterLast isName isClosing⟩

theorem whole_parameterMore {name comma : Token} (isName : name.kind = .ident)
    (isComma : comma.kind = .comma) (params : parameterList.Whole tokens) :
    parameterList.Whole (name :: comma :: tokens) := by
  intro rest noElse
  obtain ⟨nodes, derives⟩ := params rest noElse
  exact ⟨_, .parameterMore isName isComma derives⟩

def Guards (tokens : List Token) : Prop :=
  ∃ opening inner closing, tokens = opening :: (inner ++ [closing]) ∧
    opening.kind = .lparen ∧ condition.Whole inner ∧ closing.kind = .rparen

def Declares (tokens : List Token) : Prop :=
  ∃ opening inner, tokens = opening :: inner ∧ opening.kind = .lparen ∧ parameters.Whole inner

theorem whole_assign {name mark semi : Token} (isName : name.kind = .ident)
    (isMark : mark.kind = .assign) (value : expr.Whole tokens) (isSemi : semi.kind = .semi) :
    statement.Whole (name :: mark :: (tokens ++ [semi])) := by
  intro rest _
  obtain ⟨node, derives⟩ := value (semi :: rest) (not_else isSemi nofun)
  simp only [List.cons_append, List.append_assoc, List.nil_append]
  exact ⟨_, .assign isName isMark derives isSemi⟩

theorem whole_print {word opening closing semi : Token} (isWord : word.kind = .printWord)
    (isOpening : opening.kind = .lparen) (value : expr.Whole tokens)
    (isClosing : closing.kind = .rparen) (isSemi : semi.kind = .semi) :
    statement.Whole (word :: opening :: (tokens ++ [closing, semi])) := by
  intro rest _
  obtain ⟨node, derives⟩ := value (closing :: semi :: rest) (not_else isClosing nofun)
  simp only [List.cons_append, List.append_assoc, List.nil_append]
  exact ⟨_, .print isWord isOpening derives isClosing isSemi⟩

theorem whole_ifThen {word : Token} (isWord : word.kind = .ifWord) (test : Guards front)
    (body : statement.Whole tokens) : statement.Whole (word :: (front ++ tokens)) := by
  intro rest noElse
  obtain ⟨opening, inner, closing, rfl, isOpening, cond, isClosing⟩ := test
  obtain ⟨tested, derivesTest⟩ := cond (closing :: (tokens ++ rest)) (not_else isClosing nofun)
  obtain ⟨node, derives⟩ := body rest noElse
  simp only [List.cons_append, List.append_assoc, List.nil_append]
  exact ⟨_, .ifThen isWord isOpening derivesTest isClosing derives noElse⟩

theorem whole_ifElse {word otherwise : Token} {body : List Token} (isWord : word.kind = .ifWord)
    (test : Guards front)
    (closed : ∀ rest, Leads .elseWord rest → ∃ node, Derives .statement (body ++ rest) node rest)
    (isElse : otherwise.kind = .elseWord) (other : statement.Whole tokens) :
    statement.Whole (word :: (front ++ (body ++ otherwise :: tokens))) := by
  intro rest noElse
  obtain ⟨opening, inner, closing, rfl, isOpening, cond, isClosing⟩ := test
  obtain ⟨tested, derivesTest⟩ :=
    cond (closing :: (body ++ otherwise :: (tokens ++ rest))) (not_else isClosing nofun)
  obtain ⟨first, derivesFirst⟩ := closed _ (Token.leads_cons.2 isElse)
  obtain ⟨second, derivesSecond⟩ := other rest noElse
  simp only [List.cons_append, List.append_assoc, List.nil_append]
  exact ⟨_, .ifElse isWord isOpening derivesTest isClosing derivesFirst isElse derivesSecond⟩

theorem whole_loop {word : Token} (isWord : word.kind = .whileWord) (test : Guards front)
    (body : statement.Whole tokens) : statement.Whole (word :: (front ++ tokens)) := by
  intro rest noElse
  obtain ⟨opening, inner, closing, rfl, isOpening, cond, isClosing⟩ := test
  obtain ⟨tested, derivesTest⟩ := cond (closing :: (tokens ++ rest)) (not_else isClosing nofun)
  obtain ⟨node, derives⟩ := body rest noElse
  simp only [List.cons_append, List.append_assoc, List.nil_append]
  exact ⟨_, .loop isWord isOpening derivesTest isClosing derives⟩

theorem not_leads_else_of_statement {rest : List Token} {node : Tree}
    (derives : Derives .statement tokens node rest) : ¬Leads .elseWord tokens := by
  cases derives with
  | assign isKind => exact not_else isKind nofun
  | ifThen isKind => exact not_else isKind nofun
  | ifElse isKind => exact not_else isKind nofun
  | loop isKind => exact not_else isKind nofun
  | print isKind => exact not_else isKind nofun
  | function isKind => exact not_else isKind nofun

theorem leads_else_of_statements {rest : List Token} {nodes : List Tree}
    (derives : Derives .statements tokens nodes rest) (leads : Leads .elseWord tokens) :
    Leads .elseWord rest := by
  cases derives with
  | statementsNil => exact leads
  | statementsCons first => exact absurd leads (not_leads_else_of_statement first)

theorem whole_function {word name : Token} (isWord : word.kind = .functionWord)
    (isName : name.kind = .ident) (params : Declares front) (body : statement.Whole tokens) :
    statement.Whole (word :: name :: (front ++ tokens)) := by
  intro rest noElse
  obtain ⟨opening, inner, rfl, isOpening, list⟩ := params
  obtain ⟨node, derives⟩ := body rest noElse
  obtain ⟨names, derivesList⟩ := list (tokens ++ rest) (not_leads_else_of_statement derives)
  simp only [List.cons_append, List.append_assoc]
  exact ⟨_, .function isWord isName isOpening derivesList derives⟩

theorem whole_statementsCons (first : statement.Whole front) (others : statements.Whole tokens) :
    statements.Whole (front ++ tokens) := by
  intro rest noElse
  obtain ⟨nodes, derives⟩ := others rest noElse
  obtain ⟨node, derivesFirst⟩ := first _ (mt (leads_else_of_statements derives) noElse)
  rw [List.append_assoc]
  exact ⟨_, .statementsCons derivesFirst derives⟩

theorem guards_zero : Guards [⟨.lparen, none⟩, ⟨.num, none⟩, ⟨.rparen, none⟩] :=
  ⟨_, [⟨.num, none⟩], _, rfl, rfl, whole_condition whole_zero, rfl⟩

theorem declares_none : Declares [⟨.lparen, none⟩, ⟨.rparen, none⟩] :=
  ⟨_, _, rfl, rfl, fun _ _ => ⟨_, .parametersNone rfl⟩⟩

theorem whole_assignment :
    statement.Whole [⟨.ident, none⟩, ⟨.assign, none⟩, ⟨.num, none⟩, ⟨.semi, none⟩] :=
  whole_assign rfl rfl whole_zero rfl

theorem exists_factor {token : Token} (isOne : token.kind ∈ [.num, .ident, .lparen]) :
    ∃ more, factor.Whole (token :: more) := by
  simp only [List.mem_cons, List.not_mem_nil, or_false] at isOne
  rcases isOne with isNum | isName | isOpening
  · exact ⟨[], whole_num isNum⟩
  · exact ⟨[], whole_var isName⟩
  · exact ⟨[⟨.num, none⟩, ⟨.rparen, none⟩], whole_group isOpening whole_zero rfl⟩

theorem exists_statement {token : Token}
    (isOne : token.kind ∈ [.ident, .ifWord, .whileWord, .printWord, .functionWord]) :
    ∃ more, statement.Whole (token :: more) := by
  simp only [List.mem_cons, List.not_mem_nil, or_false] at isOne
  rcases isOne with isName | isWord | isWord | isWord | isWord
  · exact ⟨[⟨.assign, none⟩, ⟨.num, none⟩, ⟨.semi, none⟩], whole_assign isName rfl whole_zero rfl⟩
  · exact ⟨_, whole_ifThen isWord guards_zero whole_assignment⟩
  · exact ⟨_, whole_loop isWord guards_zero whole_assignment⟩
  · exact ⟨[⟨.lparen, none⟩, ⟨.num, none⟩, ⟨.rparen, none⟩, ⟨.semi, none⟩],
      whole_print isWord rfl whole_zero rfl rfl⟩
  · have isName : (⟨.ident, none⟩ : Token).kind = .ident := rfl
    exact ⟨_, whole_function isWord isName declares_none whole_assignment⟩

end Phrase

end ImpToC
