import ImpToC.Proofs.Faults

/-! The parser reports the first token that fits nowhere. Tokens are viable if more tokens behind
them make a program, at any depth of nesting; what is in front of the token in a report is
viable, and with the token it is not. So the report does not change with what comes behind the
token. That the nesting is too deep is no matter of viability, and this report can go away with
more tokens in one case: where a call takes the last level and is then closed at once. -/
namespace ImpToC

open Token (Leads)

namespace Parse

variable {tokens rest : List Token} {error : ParseError}

theorem statements_cons_of_error (nonempty : tokens ≠ [])
    (failed : statement maxLevels tokens = .error error) : statements tokens = .error error := by
  obtain ⟨token, rest, rfl⟩ := List.exists_cons_of_ne_nil nonempty
  exact statements_of_error failed

theorem statements_after {stmt : Stmt} (read : statement maxLevels tokens = .ok (stmt, rest))
    (failed : statements rest = .error error) : statements tokens = .error error := by
  cases tokens with
  | nil => cases shrinks_statement _ _ _ _ read
  | cons token tokens => rw [statements_of_ok read, failed]

theorem blames_first {token : Token}
    (failed : statement maxLevels (token :: rest) = .error error) :
    Blames Phrase.statements.Whole statements (token :: rest) error := by
  refine (predicts_statement maxLevels _ _ failed).after [] (fun other same fails => ?_)
    (fun isEnd => absurd isEnd (List.cons_ne_nil _ _)) fun phrase whole => ⟨[], ?_⟩
  · refine statements_cons_of_error ?_ fails
    rintro rfl
    cases same
  · rw [List.nil_append]
    exact Phrase.whole_statementsCons whole fun _ _ => ⟨_, .statementsNil⟩

theorem blames_later {stmt : Stmt} (read : statement maxLevels tokens = .ok (stmt, rest))
    (someLeft : rest ≠ []) (later : Blames Phrase.statements.Whole statements rest error) :
    Blames Phrase.statements.Whole statements tokens error := by
  obtain ⟨used, rfl, again⟩ := steady_statement _ _ _ _ read
  have first := whole_of_statement read
  refine later.after used (fun other same fails => statements_after (again other same) fails)
    (fun isEnd => absurd isEnd someLeft) fun phrase whole => ⟨[], ?_⟩
  rw [List.append_nil]
  exact Phrase.whole_statementsCons first whole

theorem blames_statements (failed : statements tokens = .error error) :
    Blames Phrase.statements.Whole statements tokens error := by
  induction length : tokens.length using Nat.strongRecOn generalizing tokens with
  | ind size ih =>
    cases tokens with
    | nil =>
      rw [statements] at failed
      cases failed
    | cons token tokens =>
      cases read : statement maxLevels (token :: tokens) with
      | error fault =>
        rw [statements_of_error read, Except.error.injEq] at failed
        exact blames_first (failed ▸ read)
      | ok result =>
        obtain ⟨stmt, rest⟩ := result
        have shorter := shrinks_statement _ _ _ _ read
        rw [statements_of_ok read] at failed
        cases others : statements rest with
        | ok stmts =>
          rw [others] at failed
          cases failed
        | error fault =>
          rw [others] at failed
          cases failed
          refine blames_later read ?_ (ih rest.length (by omega) others rfl)
          rintro rfl
          rw [statements] at others
          cases others

def openCall (depth : Nat) : List Token :=
  ⟨.ident, "x"⟩ :: ⟨.assign, none⟩ :: (List.replicate depth ⟨.lparen, none⟩ ++
    [⟨.ident, "f"⟩, ⟨.lparen, none⟩])

/-- The closing bracket of the call, those around it, and the end of the assignment. -/
def closeCall (depth : Nat) : List Token :=
  ⟨.rparen, none⟩ :: (List.replicate depth ⟨.rparen, none⟩ ++ [⟨.semi, none⟩])

theorem expr_of_error {levels : Nat} (failed : factor levels tokens = .error error) :
    expr levels tokens = .error error := by
  rw [expr]
  refine bind_of_error ?_
  rw [term]
  exact bind_of_error failed

theorem statement_of_error {levels : Nat} {name mark : Token} (isName : name.kind = .ident)
    (isMark : mark.kind = .assign) (failed : expr levels tokens = .error error) :
    statement (levels + 1) (name :: mark :: tokens) = .error error := by
  rw [statement, bind_of_ok (oneOf_eq_ok.2 ⟨rfl, by simp [isName]⟩)]
  simp only [isName]
  rw [bind_of_ok (expect_eq_ok.2 ⟨rfl, isMark⟩)]
  exact bind_of_error failed

theorem factor_openCall (depth : Nat) :
    factor (depth + 1) (List.replicate depth ⟨.lparen, none⟩ ++ [⟨.ident, "f"⟩, ⟨.lparen, none⟩]) =
      .error .nestingTooDeep := by
  induction depth with
  | zero =>
    have deep : factor 0 [] = .error .nestingTooDeep := by
      rw [factor]
      rfl
    have noArgument : argumentList 0 [] = .error .nestingTooDeep := by
      rw [argumentList_eq]
      exact bind_of_error (expr_of_error deep)
    rw [List.replicate_zero, List.nil_append, factor_call rfl rfl]
    refine bind_of_error ?_
    rw [arguments_of_open Token.not_leads_nil, noArgument]
  | succ depth ih =>
    rw [List.replicate_succ, List.cons_append, factor, bind_of_ok (oneOf_eq_ok.2 ⟨rfl, by simp⟩)]
    exact bind_of_error (expr_of_error ih)

theorem factor_closeCall (depth : Nat) (rest : List Token) :
    factor (depth + 1) (List.replicate depth ⟨.lparen, none⟩ ++ ⟨.ident, "f"⟩ :: ⟨.lparen, none⟩ ::
      ⟨.rparen, none⟩ :: (List.replicate depth ⟨.rparen, none⟩ ++ rest)) =
        .ok (.call "f" [], rest) := by
  induction depth generalizing rest with
  | zero => exact (FactorReads.call rfl rfl (arguments_of_none rfl)).eq_ok
  | succ depth ih =>
    have inner := expr_of_factor (ih (⟨.rparen, none⟩ :: rest)) (ends_of_kind rfl (by simp))
    rw [List.replicate_succ, List.replicate_succ', List.append_assoc, List.singleton_append]
    exact (FactorReads.group rfl inner rfl).eq_ok

end Parse

namespace Program

def Derivable (tokens : List Token) : Prop := ∃ tree, Derives .program tokens tree []

def Viable (tokens : List Token) : Prop := ∃ more, Derivable (tokens ++ more)

theorem derivable_of_whole {tokens : List Token} (whole : Phrase.statements.Whole tokens) :
    Derivable tokens := by
  obtain ⟨nodes, derives⟩ := whole [] Token.not_leads_nil
  rw [List.append_nil] at derives
  exact ⟨_, .program derives⟩

theorem ofTokens_eq_error {tokens : List Token} {error : ParseError} :
    ofTokens tokens = .error error ↔ Parse.statements tokens = .error error := by
  rw [ofTokens]
  cases Parse.statements tokens <;> simp

theorem not_derivable {tokens : List Token} {error : ParseError}
    (failed : ofTokens tokens = .error error) (shallow : error ≠ .nestingTooDeep) :
    ¬Derivable tokens := by
  rintro ⟨tree, derives⟩
  rcases Parse.complete_of_derives derives with deep | ⟨program, -, read⟩
  · rw [failed, Except.error.injEq] at deep
    exact shallow deep
  · rw [failed] at read
    cases read

/-- There is a first token that fits nowhere. It is of the kind that was found, and one of each
kind that was expected fits in its place. -/
def FailsAt (tokens : List Token) (found : Token.Kind) (expected : List Token.Kind) : Prop :=
  ∃ front token rest, tokens = front ++ token :: rest ∧ token.kind = found ∧ Viable front ∧
    ¬Viable (front ++ [token]) ∧ ∀ other, other.kind ∈ expected → Viable (front ++ [other])

def EndsEarly (tokens : List Token) (expected : List Token.Kind) : Prop :=
  Viable tokens ∧ ¬Derivable tokens ∧ ∀ other, other.kind ∈ expected → Viable (tokens ++ [other])

def OpensCall (tokens : List Token) : Prop :=
  ∃ front name opening, tokens = front ++ [name, opening] ∧ name.kind = .ident ∧
    opening.kind = .lparen

theorem viable_of_goesOn {front : List Token} {token : Token}
    (goesOn : ∃ more, Phrase.statements.Whole (front ++ token :: more)) :
    Viable (front ++ [token]) := by
  obtain ⟨more, whole⟩ := goesOn
  exact ⟨more, derivable_of_whole (by simpa using whole)⟩

theorem viable_of_append {front rest : List Token} (viable : Viable (front ++ rest)) :
    Viable front := by
  obtain ⟨more, derivable⟩ := viable
  exact ⟨rest ++ more, by rwa [← List.append_assoc]⟩

theorem viable_of_expected {front : List Token} {expected : List Token.Kind}
    (someExpected : expected ≠ []) (goesOn : ∀ token : Token, token.kind ∈ expected →
      ∃ more, Phrase.statements.Whole (front ++ token :: more)) : Viable front := by
  obtain ⟨kind, isOne⟩ := List.exists_mem_of_ne_nil expected someExpected
  exact viable_of_append (viable_of_goesOn (goesOn ⟨kind, none⟩ isOne))

theorem not_viable_of_again {front : List Token} {token : Token} {error : ParseError}
    (again : ∀ other, Parse.statements (front ++ token :: other) = .error error)
    (shallow : error ≠ .nestingTooDeep) : ¬Viable (front ++ [token]) := by
  rintro ⟨more, derivable⟩
  rw [List.append_assoc, List.singleton_append] at derivable
  exact not_derivable (ofTokens_eq_error.2 (again more)) shallow derivable

theorem ofTokens_openCall : ofTokens (Parse.openCall 510) = .error .nestingTooDeep := by
  have value := Parse.expr_of_error (Parse.factor_openCall 510)
  exact ofTokens_eq_error.2 (Parse.statements_of_error (Parse.statement_of_error rfl rfl value))

/-- The parser reports the first token that fits nowhere. What is in front of it can be
completed to a program, and with each kind of token that the report expects; with the token
itself it cannot, and so the report stands whatever follows. At the end of tokens that are no
program yet, the same holds of what could come next. That the nesting is too deep also stands
whatever follows, unless the tokens open a call that the next token closes. -/
theorem ofTokens_blames_first (tokens : List Token) :
    (∀ found expected, ofTokens tokens = .error (.unexpectedToken found expected) →
      FailsAt tokens found expected ∧
        ∀ more, ofTokens (tokens ++ more) = .error (.unexpectedToken found expected)) ∧
      (∀ expected, ofTokens tokens = .error (.unexpectedEnd expected) →
        EndsEarly tokens expected) ∧
      (ofTokens tokens = .error .nestingTooDeep → ∀ more,
        (OpensCall tokens → ¬Leads .rparen more) →
          ofTokens (tokens ++ more) = .error .nestingTooDeep) := by
  refine ⟨fun found expected failed => ?_, fun expected failed => ?_, fun failed more next => ?_⟩
  · cases Parse.blames_statements (ofTokens_eq_error.1 failed) with
    | unexpected front rest kinds split isFault someKinds again goesOn =>
      cases rest with
      | nil => cases isFault
      | cons token rest =>
        cases isFault
        refine ⟨⟨front, token, rest, split, rfl, viable_of_expected someKinds goesOn,
          not_viable_of_again (fun other => again (token :: other) rfl) nofun,
          fun other isOne => viable_of_goesOn (goesOn other isOne)⟩, fun more => ?_⟩
        rw [split, List.append_assoc, ofTokens_eq_error]
        exact again (token :: (rest ++ more)) rfl
    | deep front rest split isDeep => cases isDeep
    | unclosed front name opening split isDeep => cases isDeep
  · cases Parse.blames_statements (ofTokens_eq_error.1 failed) with
    | unexpected front rest kinds split isFault someKinds again goesOn =>
      cases rest with
      | cons token rest => cases isFault
      | nil =>
        cases isFault
        rw [List.append_nil] at split
        subst split
        exact ⟨viable_of_expected someKinds goesOn, not_derivable failed nofun,
          fun other isOne => viable_of_goesOn (goesOn other isOne)⟩
    | deep front rest split isDeep => cases isDeep
    | unclosed front name opening split isDeep => cases isDeep
  · rw [ofTokens_eq_error]
    cases Parse.blames_statements (ofTokens_eq_error.1 failed) with
    | unexpected front rest kinds split isFault =>
      cases rest <;> cases isFault
    | deep front rest split _ again =>
      rw [split, List.append_assoc]
      exact again _
    | unclosed front name opening split _ isName isOpening again =>
      have notClosed := next ⟨front, name, opening, split, isName, isOpening⟩
      rw [split, List.append_assoc]
      exact again more notClosed

theorem ofTokens_blames_first_runs :
    FailsAt [⟨.ident, "x"⟩, ⟨.arith .add, none⟩] (.arith .add) [.assign] ∧
      EndsEarly [⟨.ident, "x"⟩] [.assign] ∧
      ofTokens (Parse.openCall 510 ++ [⟨.num, "0"⟩]) = .error .nestingTooDeep := by
  have fails : ofTokens [⟨.ident, "x"⟩, ⟨.arith .add, none⟩] =
      .error (.unexpectedToken (.arith .add) [.assign]) :=
    ofTokens_eq_error.2 (Parse.statements_of_error rfl)
  have ends : ofTokens [⟨.ident, "x"⟩] = .error (.unexpectedEnd [.assign]) :=
    ofTokens_eq_error.2 (Parse.statements_of_error rfl)
  refine ⟨((ofTokens_blames_first _).1 _ _ fails).1, (ofTokens_blames_first _).2.1 _ ends, ?_⟩
  refine (ofTokens_blames_first _).2.2 ofTokens_openCall [⟨.num, "0"⟩] fun _ => ?_
  rw [Token.leads_cons]
  exact nofun

/-- Five hundred and ten brackets leave no level for an argument of the call inside them, so
that its opening bracket is one too many for the tokens that end with it; but the tokens go
on, and it has no argument. -/
theorem ofTokens_openCall_closed :
    ofTokens (Parse.openCall 510) = .error .nestingTooDeep ∧
      ofTokens (Parse.openCall 510 ++ Parse.closeCall 510) =
        .ok ⟨[.assign "x" (.call "f" [])]⟩ := by
  refine ⟨ofTokens_openCall, ?_⟩
  have value := Parse.expr_of_factor (Parse.factor_closeCall 510 [⟨.semi, none⟩])
    (Parse.ends_of_kind rfl (by simp))
  rw [Parse.openCall, Parse.closeCall, List.cons_append, List.cons_append, List.append_assoc]
  exact ofTokens_of_statement (Parse.StatementReads.assign rfl rfl value rfl).eq_ok

end Program

end ImpToC
