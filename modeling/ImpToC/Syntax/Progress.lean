import ImpToC.Syntax.Parse

/-! Progress: every rule that succeeds has read at least one token. The loop over the
statements of a program ends for this reason. -/
namespace ImpToC.Parse

variable {α β : Type}

/-- The rule never leaves more tokens than it was given. -/
def Keeps (rule : Parse α) : Prop :=
  ∀ tokens a rest, rule tokens = .ok (a, rest) → rest.length ≤ tokens.length

def Shrinks (rule : Parse α) : Prop :=
  ∀ tokens a rest, rule tokens = .ok (a, rest) → rest.length < tokens.length

theorem Shrinks.keeps {rule : Parse α} (shrinks : Shrinks rule) : Keeps rule :=
  fun tokens a rest done => Nat.le_of_lt (shrinks tokens a rest done)

theorem bind_eq_ok {rule : Parse α} {next : α → Parse β} {tokens : List Token} {b : β}
    {rest : List Token} :
    (rule >>= next) tokens = .ok (b, rest) ↔
      ∃ a middle, rule tokens = .ok (a, middle) ∧ next a middle = .ok (b, rest) := by
  simp only [bind, StateT.bind, Except.bind]
  cases rule tokens with
  | error fault => simp
  | ok result =>
    constructor
    · exact fun finish => ⟨result.1, result.2, rfl, finish⟩
    · rintro ⟨a, middle, start, finish⟩
      cases start
      exact finish

theorem keeps_pure (a : α) : Keeps (pure a) := by
  intro tokens b rest done
  have done : (.ok (a, tokens) : Except ParseError (α × List Token)) = .ok (b, rest) := done
  cases done
  exact Nat.le_refl _

theorem Keeps.bind {rule : Parse α} {next : α → Parse β} (first : Keeps rule)
    (second : ∀ a, Keeps (next a)) : Keeps (rule >>= next) := by
  intro tokens b rest done
  obtain ⟨a, middle, start, finish⟩ := bind_eq_ok.1 done
  exact Nat.le_trans (second a _ _ _ finish) (first _ _ _ start)

theorem Shrinks.bind {rule : Parse α} {next : α → Parse β} (first : Shrinks rule)
    (second : ∀ a, Keeps (next a)) : Shrinks (rule >>= next) := by
  intro tokens b rest done
  obtain ⟨a, middle, start, finish⟩ := bind_eq_ok.1 done
  exact Nat.lt_of_le_of_lt (second a _ _ _ finish) (first _ _ _ start)

theorem shrinks_tooDeep : Shrinks (tooDeep : Parse α) := by
  intro tokens a rest done
  simp [tooDeep] at done

theorem shrinks_oneOf (kinds : List Token.Kind) : Shrinks (oneOf kinds) := by
  intro tokens token rest done
  cases tokens with
  | nil => simp [oneOf] at done
  | cons head tail =>
    simp only [oneOf] at done
    split at done
    · simp only [Except.ok.injEq, Prod.mk.injEq] at done
      simp [← done.2]
    · simp at done

theorem shrinks_expect (kind : Token.Kind) : Shrinks (expect kind) := shrinks_oneOf [kind]

theorem keeps_skip? (kind : Token.Kind) : Keeps (skip? kind) := by
  intro tokens taken rest done
  cases tokens with
  | nil => simp_all [skip?]
  | cons head tail =>
    simp only [skip?] at done
    split at done <;> simp only [Except.ok.injEq, Prod.mk.injEq] at done <;> simp [← done.2]

theorem keeps_operator? (ofKind? : Token.Kind → Option Operator) :
    Keeps (operator? ofKind?) := by
  intro tokens taken rest done
  cases tokens with
  | nil => simp_all [operator?]
  | cons head tail =>
    simp only [operator?] at done
    split at done <;> simp only [Except.ok.injEq, Prod.mk.injEq] at done <;> simp [← done.2]

theorem keeps_get : Keeps (get : Parse (List Token)) := by
  intro tokens state rest done
  simp only [get, getThe, MonadStateOf.get, StateT.get, pure, Except.pure, Except.ok.injEq,
    Prod.mk.injEq] at done
  exact done.2 ▸ Nat.le_refl _

theorem keeps_throw (fault : ParseError) : Keeps (throw fault : Parse α) := by
  intro tokens a rest done
  simp [throw, throwThe, MonadExceptOf.throw, StateT.lift, bind, Except.bind] at done

theorem keeps_termTail (levels : Nat) (below : ∀ k < levels, Shrinks (factor k)) :
    ∀ left, Keeps (termTail levels left) := by
  induction levels with
  | zero =>
    intro left
    rw [termTail]
    refine (keeps_operator? _).bind fun op? => ?_
    cases op? with
    | none => exact keeps_pure left
    | some op => exact shrinks_tooDeep.keeps
  | succ levels ih =>
    intro left
    rw [termTail]
    refine (keeps_operator? _).bind fun op? => ?_
    cases op? with
    | none => exact keeps_pure left
    | some op =>
      exact (below levels (Nat.lt_succ_self _)).keeps.bind fun right =>
        ih (fun k small => below k (Nat.lt_succ_of_lt small)) _

theorem shrinks_term (levels : Nat) (upTo : ∀ k ≤ levels, Shrinks (factor k)) :
    Shrinks (term levels) := by
  rw [term]
  exact (upTo levels (Nat.le_refl _)).bind
    (keeps_termTail levels fun k small => upTo k (Nat.le_of_lt small))

theorem keeps_exprTail (levels : Nat) (below : ∀ k < levels, Shrinks (term k)) :
    ∀ left, Keeps (exprTail levels left) := by
  induction levels with
  | zero =>
    intro left
    rw [exprTail]
    refine (keeps_operator? _).bind fun op? => ?_
    cases op? with
    | none => exact keeps_pure left
    | some op => exact shrinks_tooDeep.keeps
  | succ levels ih =>
    intro left
    rw [exprTail]
    refine (keeps_operator? _).bind fun op? => ?_
    cases op? with
    | none => exact keeps_pure left
    | some op =>
      exact (below levels (Nat.lt_succ_self _)).keeps.bind fun right =>
        ih (fun k small => below k (Nat.lt_succ_of_lt small)) _

theorem shrinks_expr_of (levels : Nat) (upTo : ∀ k ≤ levels, Shrinks (factor k)) :
    Shrinks (expr levels) := by
  have terms : ∀ k ≤ levels, Shrinks (term k) := fun k small =>
    shrinks_term k fun j smaller => upTo j (Nat.le_trans smaller small)
  rw [expr]
  exact (terms levels (Nat.le_refl _)).bind
    (keeps_exprTail levels fun k small => terms k (Nat.le_of_lt small))

theorem shrinks_argumentsFrom (levels : Nat) (arg : Shrinks (expr levels)) (bound : Nat) :
    Shrinks (argumentsFrom levels bound) := by
  induction bound with
  | zero =>
    rw [argumentsFrom]
    refine arg.bind fun first => (shrinks_oneOf _).keeps.bind fun mark => ?_
    split
    · contradiction
    · exact keeps_pure _
  | succ bound ih =>
    rw [argumentsFrom]
    refine arg.bind fun first => (shrinks_oneOf _).keeps.bind fun mark => ?_
    split
    · rename_i same
      cases same
      exact ih.keeps.bind fun _ => keeps_pure _
    · exact keeps_pure _

theorem keeps_arguments (levels : Nat) (arg : Shrinks (expr levels)) :
    Keeps (arguments levels) := by
  rw [arguments]
  refine (keeps_skip? _).bind fun closed => ?_
  cases closed with
  | true => exact keeps_pure _
  | false => exact keeps_get.bind fun tokens => (shrinks_argumentsFrom levels arg _).keeps

theorem shrinks_factor (levels : Nat) : Shrinks (factor levels) := by
  induction levels using Nat.strongRecOn with
  | ind levels ih =>
    cases levels with
    | zero =>
      rw [factor]
      exact shrinks_tooDeep
    | succ levels =>
      have inner : Shrinks (expr levels) :=
        shrinks_expr_of levels fun k small => ih k (Nat.lt_succ_of_le small)
      rw [factor]
      refine (shrinks_oneOf _).bind fun token => ?_
      split
      · exact keeps_pure _
      · refine (keeps_skip? _).bind fun opened => ?_
        cases opened with
        | true => exact (keeps_arguments levels inner).bind fun _ => keeps_pure _
        | false => exact keeps_pure _
      · exact inner.keeps.bind fun _ => (shrinks_expect _).keeps.bind fun _ => keeps_pure _

theorem shrinks_expr (levels : Nat) : Shrinks (expr levels) :=
  shrinks_expr_of levels fun k _ => shrinks_factor k

theorem shrinks_condition (levels : Nat) : Shrinks (condition levels) := by
  refine (shrinks_expr levels).bind fun left => (keeps_operator? _).bind fun op? => ?_
  cases op? with
  | none => exact keeps_pure left
  | some op => exact (shrinks_expr levels).keeps.bind fun _ => keeps_pure _

theorem shrinks_guard (levels : Nat) : Shrinks (guard levels) :=
  (shrinks_expect _).bind fun _ => (shrinks_condition levels).keeps.bind fun _ =>
    (shrinks_expect _).keeps.bind fun _ => keeps_pure _

theorem shrinks_parametersFrom : Shrinks parametersFrom := by
  intro tokens names rest done
  fun_induction parametersFrom tokens generalizing names rest <;> grind

theorem shrinks_parameters : Shrinks parameters := by
  refine (shrinks_expect _).bind fun _ => (keeps_skip? _).bind fun closed => ?_
  cases closed with
  | true => exact keeps_pure _
  | false =>
    refine keeps_get.bind fun tokens => ?_
    split
    · split
      · exact shrinks_parametersFrom.keeps
      · exact keeps_throw _
    · exact keeps_throw _

theorem shrinks_statement (levels : Nat) : Shrinks (statement levels) := by
  induction levels with
  | zero => exact shrinks_tooDeep
  | succ levels ih =>
    rw [statement]
    refine (shrinks_oneOf _).bind fun token => ?_
    split
    · exact (shrinks_expect _).keeps.bind fun _ => (shrinks_expr levels).keeps.bind fun _ =>
        (shrinks_expect _).keeps.bind fun _ => keeps_pure _
    · refine (shrinks_guard levels).keeps.bind fun _ => ih.keeps.bind fun _ =>
        (keeps_skip? _).bind fun other => ?_
      cases other with
      | true => exact ih.keeps.bind fun _ => keeps_pure _
      | false => exact keeps_pure _
    · exact (shrinks_guard levels).keeps.bind fun _ => ih.keeps.bind fun _ => keeps_pure _
    · exact (shrinks_expect _).keeps.bind fun _ => (shrinks_expr levels).keeps.bind fun _ =>
        (shrinks_expect _).keeps.bind fun _ => (shrinks_expect _).keeps.bind fun _ => keeps_pure _
    · exact (shrinks_expect _).keeps.bind fun _ => shrinks_parameters.keeps.bind fun _ =>
        ih.keeps.bind fun _ => keeps_pure _

end ImpToC.Parse
