import ImpToC.Syntax.OfTokens

/-! What each rule of the parser reads, one step deep: which tokens it takes itself, which
rules it leaves the rest to, and how many levels it passes on. Everything else about the
parser is proved from these. -/
namespace ImpToC

/-- Whether the first of the tokens is of this kind. -/
def Token.Leads (kind : Token.Kind) (tokens : List Token) : Prop :=
  ∃ token rest, tokens = token :: rest ∧ token.kind = kind

open Token (Leads)

theorem Token.leads_cons {kind : Token.Kind} {token : Token} {rest : List Token} :
    Leads kind (token :: rest) ↔ token.kind = kind := by
  constructor
  · rintro ⟨_, _, same, isKind⟩
    cases same
    exact isKind
  · exact fun isKind => ⟨token, rest, rfl, isKind⟩

theorem Token.not_leads_nil {kind : Token.Kind} : ¬Leads kind [] := by
  rintro ⟨_, _, same, -⟩
  cases same

namespace Parse

variable {α β : Type} {levels : Nat} {tokens rest : List Token}

theorem bind_of_ok {rule : Parse α} {next : α → Parse β} {a : α}
    (done : rule tokens = .ok (a, rest)) : (rule >>= next) tokens = next a rest := by
  simp only [bind, StateT.bind, done, Except.bind]

theorem bind_of_error {rule : Parse α} {next : α → Parse β} {fault : ParseError}
    (failed : rule tokens = .error fault) : (rule >>= next) tokens = .error fault := by
  simp only [bind, StateT.bind, failed, Except.bind]

theorem pure_eq_ok {a b : α} :
    (pure a : Parse α) tokens = .ok (b, rest) ↔ b = a ∧ rest = tokens := by
  have same : (pure a : Parse α) tokens = .ok (a, tokens) := rfl
  rw [same, Except.ok.injEq, Prod.mk.injEq]
  exact ⟨fun both => ⟨both.1.symm, both.2.symm⟩, fun both => ⟨both.1.symm, both.2.symm⟩⟩

theorem oneOf_eq_ok {kinds : List Token.Kind} {token : Token} :
    oneOf kinds tokens = .ok (token, rest) ↔ tokens = token :: rest ∧ token.kind ∈ kinds := by
  cases tokens with
  | nil => simp [oneOf]
  | cons head tail =>
    by_cases found : head.kind ∈ kinds
    · simp only [oneOf, if_pos found, Except.ok.injEq, Prod.mk.injEq, List.cons.injEq]
      exact ⟨fun both => ⟨both, both.1 ▸ found⟩, fun both => both.1⟩
    · simp only [oneOf, if_neg found, List.cons.injEq, reduceCtorEq, false_iff]
      rintro ⟨⟨rfl, -⟩, isKind⟩
      exact found isKind

theorem expect_eq_ok {kind : Token.Kind} {token : Token} :
    expect kind tokens = .ok (token, rest) ↔ tokens = token :: rest ∧ token.kind = kind := by
  rw [expect, oneOf_eq_ok, List.mem_singleton]

theorem skip?_eq_ok {kind : Token.Kind} {taken : Bool} :
    skip? kind tokens = .ok (taken, rest) ↔
      if taken then ∃ token, tokens = token :: rest ∧ token.kind = kind
      else rest = tokens ∧ ¬Leads kind tokens := by
  cases tokens with
  | nil =>
    cases taken with
    | false => simp [skip?, Token.not_leads_nil, eq_comm]
    | true => simp [skip?]
  | cons head tail =>
    by_cases found : head.kind = kind
    · cases taken with
      | false => simp [skip?, found, Token.leads_cons]
      | true => simp [skip?, found, and_assoc]
    · cases taken with
      | false => simp [skip?, found, Token.leads_cons, eq_comm]
      | true => simp [skip?, found]

theorem operator?_eq_ok {ofKind? : Token.Kind → Option Operator} {op? : Option Operator} :
    operator? ofKind? tokens = .ok (op?, rest) ↔
      match op? with
      | some op => ∃ token, tokens = token :: rest ∧ ofKind? token.kind = some op
      | none =>
        rest = tokens ∧ ∀ token left, tokens = token :: left → ofKind? token.kind = none := by
  cases tokens with
  | nil => cases op? <;> simp [operator?, eq_comm]
  | cons head tail =>
    cases found : ofKind? head.kind with
    | none => cases op? <;> simp [operator?, found, eq_comm]
    | some op =>
      cases op? with
      | none => simp [operator?, found]
      | some other => simp [operator?, found, and_assoc, and_comm]

def IsLoop (ofKind? : Token.Kind → Option Operator) (operand : Nat → Parse Expr)
    (tail : Nat → Expr → Parse Expr) : Prop :=
  ∀ levels left, tail levels left = do
    match ← operator? ofKind? with
    | none => return left
    | some op =>
      match levels with
      | 0 => tooDeep
      | levels + 1 =>
        let right ← operand levels
        tail levels (.binary op left right)

theorem isLoop_termTail : IsLoop multiplicative? factor termTail := by
  intro levels left
  exact termTail.eq_def levels left

theorem isLoop_exprTail : IsLoop additive? term exprTail := by
  intro levels left
  exact exprTail.eq_def levels left

/-- A run of the loop that starts with `left` and `levels` levels. -/
inductive Chain (ofKind? : Token.Kind → Option Operator) (operand : Nat → Parse Expr) :
    Nat → Expr → List Token → Expr → List Token → Prop where
  | stop {levels : Nat} {left : Expr} {tokens : List Token}
    (ends : ∀ token rest, tokens = token :: rest → ofKind? token.kind = none) :
    Chain ofKind? operand levels left tokens left tokens
  | more {levels : Nat} {left right result : Expr} {op : Operator} {token : Token}
    {tokens middle rest : List Token} (isOp : ofKind? token.kind = some op)
    (read : operand levels tokens = .ok (right, middle))
    (others : Chain ofKind? operand levels (.binary op left right) middle result rest) :
    Chain ofKind? operand (levels + 1) left (token :: tokens) result rest

theorem IsLoop.eq_ok {ofKind? : Token.Kind → Option Operator} {operand : Nat → Parse Expr}
    {tail : Nat → Expr → Parse Expr} (loop : IsLoop ofKind? operand tail) {left result : Expr} :
    tail levels left tokens = .ok (result, rest) ↔
      Chain ofKind? operand levels left tokens result rest := by
  constructor
  · intro done
    induction levels generalizing left tokens with
    | zero =>
      rw [loop] at done
      obtain ⟨op?, middle, first, next⟩ := bind_eq_ok.1 done
      cases op? with
      | none =>
        obtain ⟨rfl, ends⟩ := operator?_eq_ok.1 first
        obtain ⟨rfl, rfl⟩ := pure_eq_ok.1 next
        exact .stop ends
      | some op => cases next
    | succ levels ih =>
      rw [loop] at done
      obtain ⟨op?, middle, first, next⟩ := bind_eq_ok.1 done
      cases op? with
      | none =>
        obtain ⟨rfl, ends⟩ := operator?_eq_ok.1 first
        obtain ⟨rfl, rfl⟩ := pure_eq_ok.1 next
        exact .stop ends
      | some op =>
        obtain ⟨token, rfl, isOp⟩ := operator?_eq_ok.1 first
        obtain ⟨right, last, read, others⟩ := bind_eq_ok.1 next
        exact .more isOp read (ih others)
  · intro chain
    induction chain with
    | stop ends =>
      rw [loop]
      exact bind_eq_ok.2 ⟨none, _, operator?_eq_ok.2 ⟨rfl, ends⟩, rfl⟩
    | more isOp read _ ih =>
      rw [loop]
      exact bind_eq_ok.2 ⟨some _, _, operator?_eq_ok.2 ⟨_, rfl, isOp⟩,
        bind_eq_ok.2 ⟨_, _, read, ih⟩⟩

theorem term_eq_ok {result : Expr} :
    term levels tokens = .ok (result, rest) ↔
      ∃ first middle, factor levels tokens = .ok (first, middle) ∧
        Chain multiplicative? factor levels first middle result rest := by
  rw [term, bind_eq_ok]
  simp only [isLoop_termTail.eq_ok]

theorem expr_eq_ok {result : Expr} :
    expr levels tokens = .ok (result, rest) ↔
      ∃ first middle, term levels tokens = .ok (first, middle) ∧
        Chain additive? term levels first middle result rest := by
  rw [expr, bind_eq_ok]
  simp only [isLoop_exprTail.eq_ok]

/-- The arguments of a call from the first one on, and the bracket that closes them. -/
inductive ArgumentsRead (levels : Nat) : List Token → List Expr → List Token → Prop where
  | last {tokens rest : List Token} {arg : Expr} {closing : Token}
    (read : expr levels tokens = .ok (arg, closing :: rest)) (isClosing : closing.kind = .rparen) :
    ArgumentsRead levels tokens [arg] rest
  | more {tokens middle rest : List Token} {arg : Expr} {args : List Expr} {comma : Token}
    (read : expr levels tokens = .ok (arg, comma :: middle)) (isComma : comma.kind = .comma)
    (others : ArgumentsRead levels middle args rest) :
    ArgumentsRead levels tokens (arg :: args) rest

theorem argumentsFrom_eq_ok {bound : Nat} {args : List Expr} (enough : tokens.length ≤ bound)
    (done : argumentsFrom levels bound tokens = .ok (args, rest)) :
    ArgumentsRead levels tokens args rest := by
  induction bound generalizing tokens args with
  | zero =>
    rw [argumentsFrom] at done
    obtain ⟨arg, middle, read, -⟩ := bind_eq_ok.1 done
    have shorter := shrinks_expr levels _ _ _ read
    omega
  | succ bound ih =>
    rw [argumentsFrom] at done
    obtain ⟨arg, middle, read, next⟩ := bind_eq_ok.1 done
    obtain ⟨mark, last, marked, finish⟩ := bind_eq_ok.1 next
    obtain ⟨rfl, isMark⟩ := oneOf_eq_ok.1 marked
    have shorter := shrinks_expr levels _ _ _ read
    rw [List.length_cons] at shorter
    simp only [List.mem_cons, List.not_mem_nil, or_false] at isMark
    rcases isMark with isComma | isClosing
    · simp only [isComma] at finish
      obtain ⟨args, final, others, finish⟩ := bind_eq_ok.1 finish
      obtain ⟨rfl, rfl⟩ := pure_eq_ok.1 finish
      exact .more read isComma (ih (by omega) others)
    · simp only [isClosing] at finish
      obtain ⟨rfl, rfl⟩ := pure_eq_ok.1 finish
      exact .last read isClosing

theorem arguments_eq_ok {args : List Expr} (done : arguments levels tokens = .ok (args, rest)) :
    (args = [] ∧ ∃ closing, tokens = closing :: rest ∧ closing.kind = .rparen) ∨
      ArgumentsRead levels tokens args rest := by
  rw [arguments] at done
  obtain ⟨closed, middle, first, next⟩ := bind_eq_ok.1 done
  have skipped := skip?_eq_ok.1 first
  cases closed with
  | true =>
    obtain ⟨closing, rfl, isClosing⟩ := skipped
    obtain ⟨rfl, rfl⟩ := pure_eq_ok.1 next
    exact .inl ⟨rfl, closing, rfl, isClosing⟩
  | false =>
    obtain ⟨rfl, -⟩ := skipped
    exact .inr (argumentsFrom_eq_ok (Nat.le_refl _) next)

theorem arguments_of_none {closing : Token} (isClosing : closing.kind = .rparen) :
    arguments levels (closing :: rest) = .ok ([], rest) := by
  rw [arguments]
  exact bind_eq_ok.2 ⟨true, _, skip?_eq_ok.2 ⟨closing, rfl, isClosing⟩, rfl⟩

theorem argumentsFrom_of_read {bound : Nat} {args : List Expr}
    (read : ArgumentsRead levels tokens args rest) (enough : tokens.length ≤ bound) :
    argumentsFrom levels bound tokens = .ok (args, rest) := by
  induction read generalizing bound with
  | last read isClosing =>
    rw [argumentsFrom]
    refine bind_eq_ok.2 ⟨_, _, read,
      bind_eq_ok.2 ⟨_, _, oneOf_eq_ok.2 ⟨rfl, by simp [isClosing]⟩, ?_⟩⟩
    simp only [isClosing]
    rfl
  | more read isComma _ ih =>
    have shorter := shrinks_expr levels _ _ _ read
    rw [List.length_cons] at shorter
    obtain ⟨less, rfl⟩ : ∃ less, bound = less + 1 := ⟨bound - 1, by omega⟩
    rw [argumentsFrom]
    refine bind_eq_ok.2 ⟨_, _, read,
      bind_eq_ok.2 ⟨_, _, oneOf_eq_ok.2 ⟨rfl, by simp [isComma]⟩, ?_⟩⟩
    simp only [isComma]
    exact bind_eq_ok.2 ⟨_, _, ih (by omega), rfl⟩

theorem arguments_of_read {args : List Expr} (notClosed : ¬Leads .rparen tokens)
    (read : ArgumentsRead levels tokens args rest) :
    arguments levels tokens = .ok (args, rest) := by
  rw [arguments]
  exact bind_eq_ok.2 ⟨false, _, skip?_eq_ok.2 ⟨rfl, notClosed⟩, bind_eq_ok.2 ⟨tokens, tokens, rfl,
    argumentsFrom_of_read read (Nat.le_refl _)⟩⟩

/-- A factor with `levels` levels for what is inside it. -/
inductive FactorReads (levels : Nat) : List Token → Expr → List Token → Prop where
  | num {token : Token} {rest : List Token} (isNum : token.kind = .num) :
    FactorReads levels (token :: rest) (.num token.text) rest
  | var {token : Token} {rest : List Token} (isName : token.kind = .ident)
    (noCall : ¬Leads .lparen rest) : FactorReads levels (token :: rest) (.var token.text) rest
  | call {name opening : Token} {tokens rest : List Token} {args : List Expr}
    (isName : name.kind = .ident) (isOpening : opening.kind = .lparen)
    (read : arguments levels tokens = .ok (args, rest)) :
    FactorReads levels (name :: opening :: tokens) (.call name.text args) rest
  | group {opening closing : Token} {tokens rest : List Token} {inner : Expr}
    (isOpening : opening.kind = .lparen)
    (read : expr levels tokens = .ok (inner, closing :: rest))
    (isClosing : closing.kind = .rparen) : FactorReads levels (opening :: tokens) inner rest

theorem FactorReads.eq_ok {result : Expr} (read : FactorReads levels tokens result rest) :
    factor (levels + 1) tokens = .ok (result, rest) := by
  rw [factor]
  cases read with
  | num isNum =>
    refine bind_eq_ok.2 ⟨_, _, oneOf_eq_ok.2 ⟨rfl, by simp [isNum]⟩, ?_⟩
    simp only [isNum]
    rfl
  | var isName noCall =>
    refine bind_eq_ok.2 ⟨_, _, oneOf_eq_ok.2 ⟨rfl, by simp [isName]⟩, ?_⟩
    simp only [isName]
    exact bind_eq_ok.2 ⟨false, _, skip?_eq_ok.2 ⟨rfl, noCall⟩, rfl⟩
  | call isName isOpening read =>
    refine bind_eq_ok.2 ⟨_, _, oneOf_eq_ok.2 ⟨rfl, by simp [isName]⟩, ?_⟩
    simp only [isName]
    exact bind_eq_ok.2 ⟨true, _, skip?_eq_ok.2 ⟨_, rfl, isOpening⟩, bind_eq_ok.2 ⟨_, _, read, rfl⟩⟩
  | group isOpening read isClosing =>
    refine bind_eq_ok.2 ⟨_, _, oneOf_eq_ok.2 ⟨rfl, by simp [isOpening]⟩, ?_⟩
    simp only [isOpening]
    exact bind_eq_ok.2 ⟨_, _, read, bind_eq_ok.2 ⟨_, _, expect_eq_ok.2 ⟨rfl, isClosing⟩, rfl⟩⟩

theorem factor_eq_ok {result : Expr} (done : factor levels tokens = .ok (result, rest)) :
    ∃ below, levels = below + 1 ∧ FactorReads below tokens result rest := by
  cases levels with
  | zero =>
    rw [factor] at done
    cases done
  | succ levels =>
    refine ⟨levels, rfl, ?_⟩
    rw [factor] at done
    obtain ⟨token, middle, first, next⟩ := bind_eq_ok.1 done
    obtain ⟨rfl, isOne⟩ := oneOf_eq_ok.1 first
    simp only [List.mem_cons, List.not_mem_nil, or_false] at isOne
    rcases isOne with isNum | isName | isOpening
    · simp only [isNum] at next
      obtain ⟨rfl, rfl⟩ := pure_eq_ok.1 next
      exact .num isNum
    · simp only [isName] at next
      obtain ⟨opened, last, skipped, finish⟩ := bind_eq_ok.1 next
      have skipped := skip?_eq_ok.1 skipped
      cases opened with
      | true =>
        obtain ⟨opening, rfl, isOpening⟩ := skipped
        obtain ⟨args, final, read, finish⟩ := bind_eq_ok.1 finish
        obtain ⟨rfl, rfl⟩ := pure_eq_ok.1 finish
        exact .call isName isOpening read
      | false =>
        obtain ⟨rfl, noCall⟩ := skipped
        obtain ⟨rfl, rfl⟩ := pure_eq_ok.1 finish
        exact .var isName noCall
    · simp only [isOpening] at next
      obtain ⟨inner, last, read, next⟩ := bind_eq_ok.1 next
      obtain ⟨closing, final, closed, finish⟩ := bind_eq_ok.1 next
      obtain ⟨rfl, isClosing⟩ := expect_eq_ok.1 closed
      obtain ⟨rfl, rfl⟩ := pure_eq_ok.1 finish
      exact .group isOpening read isClosing

/-- The parameters from the first one on, and the bracket that closes them. -/
inductive ParametersRead : List Token → List String → List Token → Prop where
  | last {name closing : Token} {rest : List Token} (isName : name.kind = .ident)
    (isClosing : closing.kind = .rparen) : ParametersRead (name :: closing :: rest) [name.text] rest
  | more {name comma : Token} {tokens rest : List Token} {params : List String}
    (isName : name.kind = .ident) (isComma : comma.kind = .comma)
    (others : ParametersRead tokens params rest) :
    ParametersRead (name :: comma :: tokens) (name.text :: params) rest

theorem parametersFrom_eq_ok {params : List String} :
    parametersFrom tokens = .ok (params, rest) ↔ ParametersRead tokens params rest := by
  constructor
  · intro done
    fun_induction parametersFrom tokens generalizing params rest with
    | case3 name isName comma tokens isComma others left read ih =>
      cases done
      exact .more isName isComma (ih read)
    | case5 name isName closing tokens isClosing =>
      cases done
      exact .last isName isClosing
    | _ => cases done
  · intro read
    induction read with
    | last isName isClosing => simp only [parametersFrom, isName, isClosing, if_true]
    | more isName isComma _ ih => simp only [parametersFrom, isName, isComma, if_true, ih]

theorem parameters_eq_ok {params : List String} (done : parameters tokens = .ok (params, rest)) :
    ∃ opening inner, tokens = opening :: inner ∧ opening.kind = .lparen ∧
      ((params = [] ∧ ∃ closing, inner = closing :: rest ∧ closing.kind = .rparen) ∨
        ParametersRead inner params rest) := by
  rw [parameters] at done
  obtain ⟨opening, inner, opened, afterOpening⟩ := bind_eq_ok.1 done
  obtain ⟨rfl, isOpening⟩ := expect_eq_ok.1 opened
  obtain ⟨closed, middle, first, next⟩ := bind_eq_ok.1 afterOpening
  refine ⟨opening, inner, rfl, isOpening, ?_⟩
  have skipped := skip?_eq_ok.1 first
  clear first done opened afterOpening
  cases closed with
  | true =>
    obtain ⟨closing, rfl, isClosing⟩ := skipped
    obtain ⟨rfl, rfl⟩ := pure_eq_ok.1 next
    exact .inl ⟨rfl, closing, rfl, isClosing⟩
  | false =>
    obtain ⟨rfl, -⟩ := skipped
    obtain ⟨seen, left, got, finish⟩ := bind_eq_ok.1 next
    cases got
    cases middle with
    | nil => cases finish
    | cons token tokens =>
      by_cases isName : token.kind = .ident
      · simp only [if_pos isName] at finish
        exact .inr (parametersFrom_eq_ok.1 finish)
      · simp only [if_neg isName] at finish
        cases finish

theorem parameters_of_none {opening closing : Token} (isOpening : opening.kind = .lparen)
    (isClosing : closing.kind = .rparen) :
    parameters (opening :: closing :: rest) = .ok ([], rest) := by
  rw [parameters]
  refine bind_eq_ok.2 ⟨_, _, expect_eq_ok.2 ⟨rfl, isOpening⟩, ?_⟩
  exact bind_eq_ok.2 ⟨true, _, skip?_eq_ok.2 ⟨closing, rfl, isClosing⟩, rfl⟩

theorem parameters_of_read {opening : Token} {params : List String}
    (isOpening : opening.kind = .lparen) (read : ParametersRead tokens params rest) :
    parameters (opening :: tokens) = .ok (params, rest) := by
  obtain ⟨name, others, rfl, isName⟩ : Leads .ident tokens := by
    cases read with
    | last isName | more isName => exact Token.leads_cons.2 isName
  have notClosed : ¬Leads .rparen (name :: others) := by simp [Token.leads_cons, isName]
  rw [parameters]
  refine bind_eq_ok.2 ⟨_, _, expect_eq_ok.2 ⟨rfl, isOpening⟩, ?_⟩
  refine bind_eq_ok.2 ⟨false, _, skip?_eq_ok.2 ⟨rfl, notClosed⟩, ?_⟩
  refine bind_eq_ok.2 ⟨name :: others, name :: others, rfl, ?_⟩
  simp only [if_pos isName]
  exact parametersFrom_eq_ok.2 read

/-- A condition: a sum, or two sums with a comparison between them. -/
inductive ConditionReads (levels : Nat) : List Token → Expr → List Token → Prop where
  | single {tokens rest : List Token} {value : Expr}
    (read : expr levels tokens = .ok (value, rest)) : ConditionReads levels tokens value rest
  | compare {op : Token} {rel : RelOp} {tokens middle rest : List Token} {left right : Expr}
    (first : expr levels tokens = .ok (left, op :: middle)) (isOp : op.kind = .rel rel)
    (second : expr levels middle = .ok (right, rest)) :
    ConditionReads levels tokens (.binary (.rel rel) left right) rest

theorem relational?_eq_some {kind : Token.Kind} {op : Operator}
    (found : relational? kind = some op) :
    ∃ rel, kind = .rel rel ∧ op = .rel rel := by
  cases kind with
  | rel rel =>
    cases found
    exact ⟨rel, rfl, rfl⟩
  | _ => cases found

theorem condition_eq_ok {result : Expr} (done : condition levels tokens = .ok (result, rest)) :
    ConditionReads levels tokens result rest := by
  rw [condition] at done
  obtain ⟨left, middle, first, next⟩ := bind_eq_ok.1 done
  obtain ⟨op?, last, compared, finish⟩ := bind_eq_ok.1 next
  cases op? with
  | none =>
    obtain ⟨rfl, -⟩ := operator?_eq_ok.1 compared
    obtain ⟨rfl, rfl⟩ := pure_eq_ok.1 finish
    exact .single first
  | some op =>
    obtain ⟨token, rfl, isOp⟩ := operator?_eq_ok.1 compared
    obtain ⟨rel, isRel, rfl⟩ := relational?_eq_some isOp
    obtain ⟨right, final, second, finish⟩ := bind_eq_ok.1 finish
    obtain ⟨rfl, rfl⟩ := pure_eq_ok.1 finish
    exact .compare first isRel second

theorem guard_eq_ok {result : Expr} (done : guard levels tokens = .ok (result, rest)) :
    ∃ opening closing inner, tokens = opening :: inner ∧ opening.kind = .lparen ∧
      ConditionReads levels inner result (closing :: rest) ∧ closing.kind = .rparen := by
  rw [guard] at done
  obtain ⟨opening, middle, opened, next⟩ := bind_eq_ok.1 done
  obtain ⟨rfl, isOpening⟩ := expect_eq_ok.1 opened
  obtain ⟨cond, last, read, next⟩ := bind_eq_ok.1 next
  obtain ⟨closing, final, closed, finish⟩ := bind_eq_ok.1 next
  obtain ⟨rfl, isClosing⟩ := expect_eq_ok.1 closed
  obtain ⟨rfl, rfl⟩ := pure_eq_ok.1 finish
  exact ⟨opening, closing, middle, rfl, isOpening, condition_eq_ok read, isClosing⟩

theorem condition_of_expr {mark : Token} {value : Expr}
    (read : expr levels tokens = .ok (value, mark :: rest)) (noOp : ∀ rel, mark.kind ≠ .rel rel) :
    condition levels tokens = .ok (value, mark :: rest) := by
  have notCompared : operator? relational? (mark :: rest) = .ok (none, mark :: rest) := by
    refine operator?_eq_ok.2 ⟨rfl, ?_⟩
    rintro token left ⟨⟩
    refine Option.eq_none_iff_forall_ne_some.2 fun op found => ?_
    obtain ⟨rel, isOp, -⟩ := relational?_eq_some found
    exact noOp rel isOp
  rw [condition]
  exact bind_eq_ok.2 ⟨_, _, read, bind_eq_ok.2 ⟨none, _, notCompared, rfl⟩⟩

theorem condition_of_compare {op : Token} {rel : RelOp} {middle : List Token} {left right : Expr}
    (first : expr levels tokens = .ok (left, op :: middle)) (isOp : op.kind = .rel rel)
    (second : expr levels middle = .ok (right, rest)) :
    condition levels tokens = .ok (.binary (.rel rel) left right, rest) := by
  have found : relational? op.kind = some (.rel rel) := by
    rw [isOp]
    rfl
  rw [condition]
  refine bind_eq_ok.2 ⟨_, _, first,
    bind_eq_ok.2 ⟨some _, _, operator?_eq_ok.2 ⟨op, rfl, found⟩, ?_⟩⟩
  exact bind_eq_ok.2 ⟨_, _, second, rfl⟩

theorem guard_of_condition {opening closing : Token} {cond : Expr}
    (isOpening : opening.kind = .lparen)
    (read : condition levels tokens = .ok (cond, closing :: rest))
    (isClosing : closing.kind = .rparen) : guard levels (opening :: tokens) = .ok (cond, rest) := by
  rw [guard]
  refine bind_eq_ok.2 ⟨_, _, expect_eq_ok.2 ⟨rfl, isOpening⟩, bind_eq_ok.2 ⟨_, _, read, ?_⟩⟩
  exact bind_eq_ok.2 ⟨_, _, expect_eq_ok.2 ⟨rfl, isClosing⟩, rfl⟩

inductive StatementReads (levels : Nat) : List Token → Stmt → List Token → Prop where
  | assign {name mark semi : Token} {tokens rest : List Token} {value : Expr}
    (isName : name.kind = .ident) (isMark : mark.kind = .assign)
    (read : expr levels tokens = .ok (value, semi :: rest)) (isSemi : semi.kind = .semi) :
    StatementReads levels (name :: mark :: tokens) (.assign name.text value) rest
  | ifThen {word : Token} {tokens middle rest : List Token} {cond : Expr} {body : Stmt}
    (isWord : word.kind = .ifWord) (test : guard levels tokens = .ok (cond, middle))
    (read : statement levels middle = .ok (body, rest)) (noElse : ¬Leads .elseWord rest) :
    StatementReads levels (word :: tokens) (.ifThen cond body) rest
  | ifElse {word otherwise : Token} {tokens middle last rest : List Token} {cond : Expr}
    {body other : Stmt} (isWord : word.kind = .ifWord)
    (test : guard levels tokens = .ok (cond, middle))
    (read : statement levels middle = .ok (body, otherwise :: last))
    (isElse : otherwise.kind = .elseWord)
    (alternative : statement levels last = .ok (other, rest)) :
    StatementReads levels (word :: tokens) (.ifElse cond body other) rest
  | loop {word : Token} {tokens middle rest : List Token} {cond : Expr} {body : Stmt}
    (isWord : word.kind = .whileWord) (test : guard levels tokens = .ok (cond, middle))
    (read : statement levels middle = .ok (body, rest)) :
    StatementReads levels (word :: tokens) (.loop cond body) rest
  | print {word opening closing semi : Token} {tokens rest : List Token} {value : Expr}
    (isWord : word.kind = .printWord) (isOpening : opening.kind = .lparen)
    (read : expr levels tokens = .ok (value, closing :: semi :: rest))
    (isClosing : closing.kind = .rparen) (isSemi : semi.kind = .semi) :
    StatementReads levels (word :: opening :: tokens) (.print value) rest
  | function {word name : Token} {tokens middle rest : List Token} {params : List String}
    {body : Stmt} (isWord : word.kind = .functionWord) (isName : name.kind = .ident)
    (list : parameters tokens = .ok (params, middle))
    (read : statement levels middle = .ok (body, rest)) :
    StatementReads levels (word :: name :: tokens) (.function name.text params body) rest

theorem StatementReads.eq_ok {result : Stmt} (read : StatementReads levels tokens result rest) :
    statement (levels + 1) tokens = .ok (result, rest) := by
  rw [statement]
  cases read with
  | assign isName isMark read isSemi =>
    refine bind_eq_ok.2 ⟨_, _, oneOf_eq_ok.2 ⟨rfl, by simp [isName]⟩, ?_⟩
    simp only [isName]
    refine bind_eq_ok.2 ⟨_, _, expect_eq_ok.2 ⟨rfl, isMark⟩, bind_eq_ok.2 ⟨_, _, read, ?_⟩⟩
    exact bind_eq_ok.2 ⟨_, _, expect_eq_ok.2 ⟨rfl, isSemi⟩, rfl⟩
  | ifThen isWord test read noElse =>
    refine bind_eq_ok.2 ⟨_, _, oneOf_eq_ok.2 ⟨rfl, by simp [isWord]⟩, ?_⟩
    simp only [isWord]
    refine bind_eq_ok.2 ⟨_, _, test, bind_eq_ok.2 ⟨_, _, read, ?_⟩⟩
    exact bind_eq_ok.2 ⟨false, _, skip?_eq_ok.2 ⟨rfl, noElse⟩, rfl⟩
  | ifElse isWord test read isElse alternative =>
    refine bind_eq_ok.2 ⟨_, _, oneOf_eq_ok.2 ⟨rfl, by simp [isWord]⟩, ?_⟩
    simp only [isWord]
    refine bind_eq_ok.2 ⟨_, _, test, bind_eq_ok.2 ⟨_, _, read, ?_⟩⟩
    refine bind_eq_ok.2 ⟨true, _, skip?_eq_ok.2 ⟨_, rfl, isElse⟩, ?_⟩
    exact bind_eq_ok.2 ⟨_, _, alternative, rfl⟩
  | loop isWord test read =>
    refine bind_eq_ok.2 ⟨_, _, oneOf_eq_ok.2 ⟨rfl, by simp [isWord]⟩, ?_⟩
    simp only [isWord]
    exact bind_eq_ok.2 ⟨_, _, test, bind_eq_ok.2 ⟨_, _, read, rfl⟩⟩
  | print isWord isOpening read isClosing isSemi =>
    refine bind_eq_ok.2 ⟨_, _, oneOf_eq_ok.2 ⟨rfl, by simp [isWord]⟩, ?_⟩
    simp only [isWord]
    refine bind_eq_ok.2 ⟨_, _, expect_eq_ok.2 ⟨rfl, isOpening⟩, bind_eq_ok.2 ⟨_, _, read, ?_⟩⟩
    refine bind_eq_ok.2 ⟨_, _, expect_eq_ok.2 ⟨rfl, isClosing⟩, ?_⟩
    exact bind_eq_ok.2 ⟨_, _, expect_eq_ok.2 ⟨rfl, isSemi⟩, rfl⟩
  | function isWord isName list read =>
    refine bind_eq_ok.2 ⟨_, _, oneOf_eq_ok.2 ⟨rfl, by simp [isWord]⟩, ?_⟩
    simp only [isWord]
    refine bind_eq_ok.2 ⟨_, _, expect_eq_ok.2 ⟨rfl, isName⟩, bind_eq_ok.2 ⟨_, _, list, ?_⟩⟩
    exact bind_eq_ok.2 ⟨_, _, read, rfl⟩

theorem statement_eq_ok {result : Stmt} (done : statement levels tokens = .ok (result, rest)) :
    ∃ below, levels = below + 1 ∧ StatementReads below tokens result rest := by
  cases levels with
  | zero => cases done
  | succ levels =>
    refine ⟨levels, rfl, ?_⟩
    rw [statement] at done
    obtain ⟨token, middle, first, next⟩ := bind_eq_ok.1 done
    obtain ⟨rfl, isOne⟩ := oneOf_eq_ok.1 first
    simp only [List.mem_cons, List.not_mem_nil, or_false] at isOne
    rcases isOne with isName | isWord | isWord | isWord | isWord
    · simp only [isName] at next
      obtain ⟨mark, inner, marked, afterMark⟩ := bind_eq_ok.1 next
      obtain ⟨rfl, isMark⟩ := expect_eq_ok.1 marked
      obtain ⟨value, last, read, afterValue⟩ := bind_eq_ok.1 afterMark
      obtain ⟨semi, final, ended, finish⟩ := bind_eq_ok.1 afterValue
      obtain ⟨rfl, isSemi⟩ := expect_eq_ok.1 ended
      obtain ⟨rfl, rfl⟩ := pure_eq_ok.1 finish
      exact .assign isName isMark read isSemi
    · simp only [isWord] at next
      obtain ⟨cond, inner, test, next⟩ := bind_eq_ok.1 next
      obtain ⟨body, last, read, next⟩ := bind_eq_ok.1 next
      obtain ⟨taken, final, skipped, finish⟩ := bind_eq_ok.1 next
      have skipped := skip?_eq_ok.1 skipped
      cases taken with
      | true =>
        obtain ⟨otherwise, rfl, isElse⟩ := skipped
        obtain ⟨other, final, alternative, finish⟩ := bind_eq_ok.1 finish
        obtain ⟨rfl, rfl⟩ := pure_eq_ok.1 finish
        exact .ifElse isWord test read isElse alternative
      | false =>
        obtain ⟨rfl, noElse⟩ := skipped
        obtain ⟨rfl, rfl⟩ := pure_eq_ok.1 finish
        exact .ifThen isWord test read noElse
    · simp only [isWord] at next
      obtain ⟨cond, inner, test, next⟩ := bind_eq_ok.1 next
      obtain ⟨body, last, read, finish⟩ := bind_eq_ok.1 next
      obtain ⟨rfl, rfl⟩ := pure_eq_ok.1 finish
      exact .loop isWord test read
    · simp only [isWord] at next
      obtain ⟨opening, inner, opened, afterOpening⟩ := bind_eq_ok.1 next
      obtain ⟨rfl, isOpening⟩ := expect_eq_ok.1 opened
      obtain ⟨value, last, read, afterValue⟩ := bind_eq_ok.1 afterOpening
      obtain ⟨closing, after, closed, afterClosing⟩ := bind_eq_ok.1 afterValue
      obtain ⟨rfl, isClosing⟩ := expect_eq_ok.1 closed
      obtain ⟨semi, final, ended, finish⟩ := bind_eq_ok.1 afterClosing
      obtain ⟨rfl, isSemi⟩ := expect_eq_ok.1 ended
      obtain ⟨rfl, rfl⟩ := pure_eq_ok.1 finish
      exact .print isWord isOpening read isClosing isSemi
    · simp only [isWord] at next
      obtain ⟨name, inner, named, afterName⟩ := bind_eq_ok.1 next
      obtain ⟨rfl, isName⟩ := expect_eq_ok.1 named
      obtain ⟨params, last, list, afterParams⟩ := bind_eq_ok.1 afterName
      obtain ⟨body, final, read, finish⟩ := bind_eq_ok.1 afterParams
      obtain ⟨rfl, rfl⟩ := pure_eq_ok.1 finish
      exact .function isWord isName list read

theorem statements_of_error {token : Token} {fault : ParseError}
    (failed : statement maxLevels (token :: tokens) = .error fault) :
    statements (token :: tokens) = .error fault := by
  rw [statements]
  split <;> simp_all

theorem statements_of_ok {token : Token} {first : Stmt}
    (read : statement maxLevels (token :: tokens) = .ok (first, rest)) :
    statements (token :: tokens) =
      match statements rest with
      | .error fault => .error fault
      | .ok others => .ok (first :: others) := by
  rw [statements]
  split
  · simp_all
  · next same =>
    rw [read] at same
    cases same
    cases statements rest <;> rfl

end Parse

theorem Program.ofTokens_eq_ok {tokens : List Token} {stmts : List Stmt} :
    ofTokens tokens = .ok ⟨stmts⟩ ↔ Parse.statements tokens = .ok stmts := by
  rw [ofTokens]
  cases Parse.statements tokens <;> simp

theorem Program.ofTokens_of_statement {tokens : List Token} {stmt : Stmt}
    (read : Parse.statement Parse.maxLevels tokens = .ok (stmt, [])) :
    ofTokens tokens = .ok ⟨[stmt]⟩ := by
  cases tokens with
  | nil => cases Parse.shrinks_statement _ _ _ _ read
  | cons token tokens => rw [ofTokens, Parse.statements_of_ok read, Parse.statements]

end ImpToC
