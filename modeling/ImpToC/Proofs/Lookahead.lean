import ImpToC.Proofs.Completion

/-! How far the parser looks ahead. It looks at one token behind a phrase to see that the phrase
ends there. So what a rule has read it reads again in front of other tokens, if those begin
alike; and if the last token it took is one that ends the phrase, in front of any tokens. -/
namespace ImpToC

open Token (Leads)

namespace Parse

variable {α β : Type} {levels : Nat} {tokens rest : List Token}

/-- What the rule has read it reads again in front of tokens that begin alike. -/
def Steady (rule : Parse α) : Prop :=
  ∀ tokens a rest, rule tokens = .ok (a, rest) →
    ∃ used, tokens = used ++ rest ∧
      ∀ other, other.head? = rest.head? → rule (used ++ other) = .ok (a, other)

/-- What the rule has read it reads again in front of any tokens. -/
def Firm (rule : Parse α) : Prop :=
  ∀ tokens a rest, rule tokens = .ok (a, rest) →
    ∃ used, tokens = used ++ rest ∧ ∀ other, rule (used ++ other) = .ok (a, other)

theorem Chain.again {ofKind? : Token.Kind → Option Operator} {operand : Nat → Parse Expr}
    {left result : Expr} (chain : Chain ofKind? operand levels left tokens result rest)
    (operands : ∀ k < levels, Steady (operand k)) :
    ∃ used, tokens = used ++ rest ∧ ∀ other, other.head? = rest.head? →
      Chain ofKind? operand levels left (used ++ other) result other := by
  induction chain with
  | stop ends =>
    refine ⟨[], rfl, fun other same => .stop ?_⟩
    rintro token left rfl
    obtain ⟨left, rfl⟩ := List.head?_eq_some_iff.1 same.symm
    exact ends token left rfl
  | @more _ _ _ _ _ token _ _ _ isOp read _ ih =>
    obtain ⟨right, rfl, againRight⟩ := operands _ (Nat.lt_succ_self _) _ _ _ read
    obtain ⟨others, rfl, againOthers⟩ := ih fun k small => operands k (by omega)
    refine ⟨token :: (right ++ others), by simp, fun other same => ?_⟩
    rw [List.cons_append, List.append_assoc]
    exact .more isOp (againRight _ (Token.head?_append same)) (againOthers other same)

theorem steady_term (upTo : ∀ k ≤ levels, Steady (factor k)) : Steady (term levels) := by
  intro tokens result rest done
  obtain ⟨first, middle, read, chain⟩ := term_eq_ok.1 done
  obtain ⟨start, rfl, againStart⟩ := upTo levels (Nat.le_refl _) _ _ _ read
  obtain ⟨others, rfl, againOthers⟩ := chain.again fun k small => upTo k (by omega)
  refine ⟨start ++ others, (List.append_assoc ..).symm, fun other same => ?_⟩
  rw [List.append_assoc]
  exact term_eq_ok.2 ⟨_, _, againStart _ (Token.head?_append same), againOthers other same⟩

theorem steady_expr_of (upTo : ∀ k ≤ levels, Steady (factor k)) : Steady (expr levels) := by
  intro tokens result rest done
  obtain ⟨first, middle, read, chain⟩ := expr_eq_ok.1 done
  obtain ⟨start, rfl, againStart⟩ := steady_term upTo _ _ _ read
  obtain ⟨others, rfl, againOthers⟩ := chain.again fun k small =>
    steady_term fun j smaller => upTo j (by omega)
  refine ⟨start ++ others, (List.append_assoc ..).symm, fun other same => ?_⟩
  rw [List.append_assoc]
  exact expr_eq_ok.2 ⟨_, _, againStart _ (Token.head?_append same), againOthers other same⟩

theorem ArgumentsRead.again {args : List Expr} (inner : Steady (expr levels))
    (read : ArgumentsRead levels tokens args rest) :
    ∃ used, tokens = used ++ rest ∧ ∀ other, ArgumentsRead levels (used ++ other) args other := by
  induction read with
  | @last _ _ _ closing read isClosing =>
    obtain ⟨arg, rfl, again⟩ := inner _ _ _ read
    refine ⟨arg ++ [closing], by simp, fun other => ?_⟩
    rw [List.append_assoc, List.singleton_append]
    exact .last (again _ rfl) isClosing
  | @more _ _ _ _ _ comma read isComma _ ih =>
    obtain ⟨arg, rfl, again⟩ := inner _ _ _ read
    obtain ⟨others, rfl, againOthers⟩ := ih
    refine ⟨arg ++ comma :: others, by simp, fun other => ?_⟩
    rw [List.append_assoc, List.cons_append]
    exact .more (again _ rfl) isComma (againOthers other)

theorem firm_arguments (inner : Steady (expr levels)) : Firm (arguments levels) := by
  intro tokens args rest done
  rcases arguments_eq_ok done with ⟨rfl, closing, rfl, isClosing⟩ | read
  · exact ⟨[closing], rfl, fun other => arguments_of_none isClosing⟩
  · obtain ⟨used, rfl, again⟩ := read.again inner
    exact ⟨used, rfl, fun other => arguments_of_read (again other).not_leads_rparen (again other)⟩

theorem steady_factor (levels : Nat) : Steady (factor levels) := by
  induction levels using Nat.strongRecOn with
  | ind levels ih =>
    intro tokens result rest done
    obtain ⟨below, rfl, read⟩ := factor_eq_ok done
    have inner : Steady (expr below) := steady_expr_of fun k small => ih k (by omega)
    cases read with
    | @num token _ isNum =>
      exact ⟨[token], rfl, fun other _ => (FactorReads.num isNum).eq_ok⟩
    | @var token _ isName noCall =>
      exact ⟨[token], rfl, fun other same =>
        (FactorReads.var isName (mt (Token.leads_of_head? same) noCall)).eq_ok⟩
    | @call name opening _ _ _ isName isOpening read =>
      obtain ⟨args, rfl, again⟩ := firm_arguments inner _ _ _ read
      exact ⟨name :: opening :: args, rfl, fun other _ =>
        (FactorReads.call isName isOpening (again other)).eq_ok⟩
    | @group opening closing _ _ _ isOpening read isClosing =>
      obtain ⟨value, rfl, again⟩ := inner _ _ _ read
      refine ⟨opening :: (value ++ [closing]), by simp, fun other _ => ?_⟩
      rw [List.cons_append, List.append_assoc, List.singleton_append]
      exact (FactorReads.group isOpening (again (closing :: other) rfl) isClosing).eq_ok

theorem steady_expr (levels : Nat) : Steady (expr levels) :=
  steady_expr_of fun k _ => steady_factor k

theorem steady_condition (levels : Nat) : Steady (condition levels) := by
  intro tokens result rest done
  rw [condition] at done ⊢
  obtain ⟨left, middle, first, next⟩ := bind_eq_ok.1 done
  obtain ⟨op?, last, compared, finish⟩ := bind_eq_ok.1 next
  obtain ⟨start, rfl, againStart⟩ := steady_expr levels _ _ _ first
  cases op? with
  | none =>
    obtain ⟨rfl, ends⟩ := operator?_eq_ok.1 compared
    obtain ⟨rfl, rfl⟩ := pure_eq_ok.1 finish
    refine ⟨start, rfl, fun other same => ?_⟩
    refine bind_eq_ok.2 ⟨_, _, againStart _ same, bind_eq_ok.2 ⟨none, _, ?_, rfl⟩⟩
    refine operator?_eq_ok.2 ⟨rfl, ?_⟩
    rintro token left rfl
    obtain ⟨left, rfl⟩ := List.head?_eq_some_iff.1 same.symm
    exact ends token left rfl
  | some op =>
    obtain ⟨token, rfl, isOp⟩ := operator?_eq_ok.1 compared
    obtain ⟨right, final, second, finish⟩ := bind_eq_ok.1 finish
    obtain ⟨rfl, rfl⟩ := pure_eq_ok.1 finish
    obtain ⟨others, rfl, againOthers⟩ := steady_expr levels _ _ _ second
    refine ⟨start ++ token :: others, by simp, fun other same => ?_⟩
    rw [List.append_assoc, List.cons_append]
    refine bind_eq_ok.2 ⟨_, _, againStart (token :: (others ++ other)) rfl, ?_⟩
    refine bind_eq_ok.2 ⟨some op, _, operator?_eq_ok.2 ⟨token, rfl, isOp⟩, ?_⟩
    exact bind_eq_ok.2 ⟨_, _, againOthers other same, rfl⟩

theorem firm_guard (levels : Nat) : Firm (guard levels) := by
  intro tokens result rest done
  rw [guard] at done
  obtain ⟨opening, middle, opened, next⟩ := bind_eq_ok.1 done
  obtain ⟨cond, last, read, next⟩ := bind_eq_ok.1 next
  obtain ⟨closing, final, closed, finish⟩ := bind_eq_ok.1 next
  obtain ⟨rfl, isOpening⟩ := expect_eq_ok.1 opened
  obtain ⟨rfl, isClosing⟩ := expect_eq_ok.1 closed
  obtain ⟨rfl, rfl⟩ := pure_eq_ok.1 finish
  obtain ⟨test, rfl, again⟩ := steady_condition levels _ _ _ read
  refine ⟨opening :: (test ++ [closing]), by simp, fun other => ?_⟩
  rw [List.cons_append, List.append_assoc, List.singleton_append]
  exact guard_of_condition isOpening (again (closing :: other) rfl) isClosing

theorem ParametersRead.again {params : List String} (read : ParametersRead tokens params rest) :
    ∃ used, tokens = used ++ rest ∧ ∀ other, ParametersRead (used ++ other) params other := by
  induction read with
  | @last name closing _ isName isClosing =>
    exact ⟨[name, closing], rfl, fun other => .last isName isClosing⟩
  | @more name comma _ _ _ isName isComma _ ih =>
    obtain ⟨others, rfl, again⟩ := ih
    exact ⟨name :: comma :: others, rfl, fun other => .more isName isComma (again other)⟩

theorem firm_parameters : Firm parameters := by
  intro tokens params rest done
  obtain ⟨opening, inner, rfl, isOpening, ⟨rfl, closing, rfl, isClosing⟩ | read⟩ :=
    parameters_eq_ok done
  · exact ⟨[opening, closing], rfl, fun other => parameters_of_none isOpening isClosing⟩
  · obtain ⟨used, rfl, again⟩ := read.again
    exact ⟨opening :: used, rfl, fun other => parameters_of_read isOpening (again other)⟩

theorem statement_again {result : Stmt} (done : statement levels tokens = .ok (result, rest)) :
    ∃ used, tokens = used ++ rest ∧ ∀ other, (Leads .elseWord other → Leads .elseWord rest) →
      statement levels (used ++ other) = .ok (result, other) := by
  induction levels using Nat.strongRecOn generalizing tokens rest result with
  | ind levels ih =>
    obtain ⟨below, rfl, read⟩ := statement_eq_ok done
    have inner := @ih below (Nat.lt_succ_self _)
    clear ih done
    cases read with
    | @assign name mark semi _ _ _ isName isMark read isSemi =>
      obtain ⟨value, rfl, again⟩ := steady_expr below _ _ _ read
      refine ⟨name :: mark :: (value ++ [semi]), by simp, fun other _ => ?_⟩
      simp only [List.cons_append, List.append_assoc, List.nil_append]
      exact (StatementReads.assign isName isMark (again (semi :: other) rfl) isSemi).eq_ok
    | @ifThen word _ _ _ _ _ isWord test read noElse =>
      obtain ⟨cond, rfl, againCond⟩ := firm_guard below _ _ _ test
      obtain ⟨body, rfl, againBody⟩ := inner read
      refine ⟨word :: (cond ++ body), by simp, fun other same => ?_⟩
      simp only [List.cons_append, List.append_assoc]
      exact (StatementReads.ifThen isWord (againCond _) (againBody other same)
        (mt same noElse)).eq_ok
    | @ifElse word otherwise _ _ _ _ _ _ _ isWord test read isElse alternative =>
      obtain ⟨cond, rfl, againCond⟩ := firm_guard below _ _ _ test
      obtain ⟨body, rfl, againBody⟩ := inner read
      obtain ⟨last, rfl, againLast⟩ := inner alternative
      refine ⟨word :: (cond ++ (body ++ otherwise :: last)), by simp, fun other same => ?_⟩
      simp only [List.cons_append, List.append_assoc]
      exact (StatementReads.ifElse isWord (againCond _) (againBody _ Token.leads_same) isElse
        (againLast other same)).eq_ok
    | @loop word _ _ _ _ _ isWord test read =>
      obtain ⟨cond, rfl, againCond⟩ := firm_guard below _ _ _ test
      obtain ⟨body, rfl, againBody⟩ := inner read
      refine ⟨word :: (cond ++ body), by simp, fun other same => ?_⟩
      simp only [List.cons_append, List.append_assoc]
      exact (StatementReads.loop isWord (againCond _) (againBody other same)).eq_ok
    | @print word opening closing semi _ _ _ isWord isOpening read isClosing isSemi =>
      obtain ⟨value, rfl, again⟩ := steady_expr below _ _ _ read
      refine ⟨word :: opening :: (value ++ [closing, semi]), by simp, fun other _ => ?_⟩
      simp only [List.cons_append, List.append_assoc, List.nil_append]
      exact (StatementReads.print isWord isOpening (again (closing :: semi :: other) rfl) isClosing
        isSemi).eq_ok
    | @function word name _ _ _ _ _ isWord isName list read =>
      obtain ⟨params, rfl, againParams⟩ := firm_parameters _ _ _ list
      obtain ⟨body, rfl, againBody⟩ := inner read
      refine ⟨word :: name :: (params ++ body), by simp, fun other same => ?_⟩
      simp only [List.cons_append, List.append_assoc]
      exact (StatementReads.function isWord isName (againParams _) (againBody other same)).eq_ok

theorem steady_statement (levels : Nat) : Steady (statement levels) := by
  intro tokens result rest done
  obtain ⟨used, split, again⟩ := statement_again done
  exact ⟨used, split, fun other same => again other (Token.leads_of_head? same)⟩

theorem not_leads_else_of_statements {tokens : List Token} {stmts : List Stmt}
    (read : statements tokens = .ok stmts) : ¬Leads .elseWord tokens := by
  intro leads
  exact Token.not_leads_nil (Phrase.leads_else_of_statements (sound_statements read) leads)

/-- What is read up to its end is read in front of other tokens too, and these after it. -/
theorem statements_append {front back : List Token} {first : List Stmt}
    (read : statements front = .ok first) (noElse : ¬Leads .elseWord back) :
    statements (front ++ back) = (statements back).map (first ++ ·) := by
  fun_induction statements front generalizing first with
  | case1 =>
    cases read
    rw [List.nil_append]
    cases statements back <;> rfl
  | case2 token rest fault failed => cases read
  | case3 token rest stmt left done fault failed ih => cases read
  | case4 token rest stmt left done others finished ih =>
    cases read
    obtain ⟨used, split, again⟩ := statement_again done
    -- the tokens behind the statement begin as before, or `back` begins there
    have goesOn : Leads .elseWord (left ++ back) → Leads .elseWord left := by
      cases left with
      | nil => exact fun leads => absurd leads noElse
      | cons token left => exact Token.leads_same
    have first := again (left ++ back) goesOn
    rw [← List.append_assoc, ← split, List.cons_append] at first
    rw [List.cons_append, statements_of_ok first, ih finished]
    cases statements back <;> rfl

end Parse

end ImpToC
