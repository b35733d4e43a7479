import ImpToC.Proofs.Lookahead

/-! Where the rules of the parser fail. Each rule is followed to the token at which it fails: what
it has read up to there can be completed to a whole phrase with every token it would have
accepted, and it fails in the same way whatever comes behind that token. The one place where
more tokens can make a fault go away is the end of the tokens behind the opening bracket of a
call, where no level is left for an argument: the call may have none. -/
namespace ImpToC

open Token (Leads)

namespace Parse

variable {α β γ : Type} {levels : Nat} {tokens rest : List Token} {error : ParseError}

theorem bind_eq_error {rule : Parse α} {next : α → Parse β} :
    (rule >>= next) tokens = .error error ↔ rule tokens = .error error ∨
      ∃ a rest, rule tokens = .ok (a, rest) ∧ next a rest = .error error := by
  cases read : rule tokens with
  | error fault => simp [bind_of_error read]
  | ok result =>
    obtain ⟨a, rest⟩ := result
    rw [bind_of_ok read]
    constructor
    · exact fun failed => .inr ⟨a, rest, rfl, failed⟩
    · rintro (failed | ⟨_, _, same, failed⟩)
      · cases failed
      · cases same
        exact failed

theorem map_eq_error {rule : Parse α} {f : α → β} :
    (rule >>= fun a => pure (f a)) tokens = .error error ↔ rule tokens = .error error := by
  rw [bind_eq_error]
  constructor
  · rintro (failed | ⟨_, _, -, failed⟩)
    · exact failed
    · cases failed
  · exact .inl

/-- Where a rule fails. It cannot go on behind `front`, because of the next token or because no
level is left, and finds the same fault whatever comes later; and with one of the tokens that
it expects, what is in front can be completed to what is wanted of it. -/
inductive Blames (goal : List Token → Prop) (rule : List Token → Except ParseError γ)
    (tokens : List Token) (error : ParseError) : Prop where
  | unexpected (front rest : List Token) (expected : List Token.Kind)
    (split : tokens = front ++ rest) (isFault : error = fault expected rest)
    (someExpected : expected ≠ [])
    (again : ∀ other, other.head? = rest.head? → rule (front ++ other) = .error error)
    (goesOn : ∀ token, token.kind ∈ expected → ∃ more, goal (front ++ token :: more))
  | deep (front rest : List Token) (split : tokens = front ++ rest)
    (isDeep : error = .nestingTooDeep) (again : ∀ other, rule (front ++ other) = .error error)
  | unclosed (front : List Token) (name opening : Token) (split : tokens = front ++ [name, opening])
    (isDeep : error = .nestingTooDeep) (isName : name.kind = .ident)
    (isOpening : opening.kind = .lparen)
    (again : ∀ other, ¬Leads .rparen other →
      rule (front ++ name :: opening :: other) = .error error)

/-- A rule that leaves the rest to another fails where the other does. With tokens left it
need only do so in front of the next token. -/
theorem Blames.after {goal wider : List Token → Prop} {rule : List Token → Except ParseError β}
    {next : List Token → Except ParseError γ} (used : List Token)
    (blames : Blames goal next tokens error)
    (same : ∀ other, other.head? = tokens.head? → next other = .error error →
      rule (used ++ other) = .error error)
    (atEnd : tokens = [] → error = .nestingTooDeep → ∀ other, next other = .error error →
      rule (used ++ other) = .error error)
    (completes : ∀ phrase, goal phrase → ∃ more, wider (used ++ (phrase ++ more))) :
    Blames wider rule (used ++ tokens) error := by
  cases blames with
  | unexpected front rest expected split isFault someExpected again goesOn =>
    subst split
    refine .unexpected (used ++ front) rest expected (by simp) isFault someExpected ?_ ?_
    · intro other head
      rw [List.append_assoc]
      exact same _ (Token.head?_append head) (again other head)
    · intro token isOne
      obtain ⟨more, phrase⟩ := goesOn token isOne
      obtain ⟨closing, whole⟩ := completes _ phrase
      exact ⟨more ++ closing, by simpa using whole⟩
  | deep front rest split isDeep again =>
    subst split
    match front, rest with
    | [], [] => exact .deep used [] rfl isDeep fun other => atEnd rfl isDeep other (again other)
    | [], token :: rest =>
      refine .deep (used ++ [token]) rest (by simp) isDeep fun other => ?_
      rw [List.append_assoc]
      exact same (token :: other) rfl (again (token :: other))
    | token :: front, rest =>
      refine .deep (used ++ token :: front) rest (by simp) isDeep fun other => ?_
      rw [List.append_assoc]
      exact same _ rfl (again other)
  | unclosed front name opening split isDeep isName isOpening again =>
    subst split
    refine .unclosed (used ++ front) name opening (by simp) isDeep isName isOpening ?_
    intro other notClosed
    rw [List.append_assoc]
    refine same _ ?_ (again other notClosed)
    cases front <;> rfl

theorem Blames.mono {goal wider : List Token → Prop} {rule : List Token → Except ParseError γ}
    (blames : Blames goal rule tokens error) (weaker : ∀ phrase, goal phrase → wider phrase) :
    Blames wider rule tokens error :=
  blames.after [] (fun _ _ failed => failed) (fun _ _ _ failed => failed)
    fun phrase whole => ⟨[], by simpa using weaker phrase whole⟩

/-- A fault of the first part is a fault of the whole, if the first part can be completed. -/
theorem Blames.bind {goal wider : List Token → Prop} {rule : Parse α} {next : α → Parse β}
    (blames : Blames goal rule tokens error)
    (completes : ∀ phrase, goal phrase → ∃ more, wider (phrase ++ more)) :
    Blames wider (rule >>= next) tokens error :=
  blames.after [] (fun _ _ => bind_of_error) (fun _ _ _ => bind_of_error) completes

/-- Behind a token that the first part takes, the second part is to blame. -/
theorem Blames.token {goal : List Token → Prop} {rule : Parse α} {next : α → Parse β} {a : α}
    {token : Token} (takes : ∀ other, rule (token :: other) = .ok (a, other))
    (blames : Blames (fun phrase => goal (token :: phrase)) (next a) rest error) :
    Blames goal (rule >>= next) (token :: rest) error :=
  blames.after [token] (fun other _ failed => (bind_of_ok (takes other)).trans failed)
    (fun _ _ other failed => (bind_of_ok (takes other)).trans failed)
    fun phrase whole => ⟨[], by simpa using whole⟩

theorem fault_congr {kinds : List Token.Kind} {other : List Token}
    (same : other.head? = tokens.head?) : fault kinds other = fault kinds tokens := by
  cases other with
  | nil => rw [List.head?_eq_none_iff.1 same.symm]
  | cons token other =>
    obtain ⟨rest, rfl⟩ := List.head?_eq_some_iff.1 same.symm
    rfl

theorem oneOf_eq_error {kinds : List Token.Kind} :
    oneOf kinds tokens = .error error ↔
      error = fault kinds tokens ∧ ∀ token rest, tokens = token :: rest → token.kind ∉ kinds := by
  cases tokens with
  | nil => simp [oneOf, eq_comm]
  | cons head tail => by_cases found : head.kind ∈ kinds <;> simp [oneOf, found, eq_comm]

variable {goal part : List Token → Prop}

theorem blames_oneOf {kinds : List Token.Kind} {next : Token → Parse β} (someKinds : kinds ≠ [])
    (failed : (oneOf kinds >>= next) tokens = .error error)
    (goesOn : ∀ token, token.kind ∈ kinds → ∃ more, goal (token :: more))
    (inner : ∀ token rest, tokens = token :: rest → token.kind ∈ kinds →
      next token rest = .error error →
        Blames (fun phrase => goal (token :: phrase)) (next token) rest error) :
    Blames goal (oneOf kinds >>= next) tokens error := by
  rcases bind_eq_error.1 failed with refused | ⟨token, rest, taken, stops⟩
  · obtain ⟨isFault, none⟩ := oneOf_eq_error.1 refused
    refine .unexpected [] tokens kinds rfl isFault someKinds (fun other same => ?_) goesOn
    refine bind_of_error (oneOf_eq_error.2 ⟨isFault.trans (fault_congr same).symm, ?_⟩)
    rintro token rest rfl
    obtain ⟨left, leads⟩ := List.head?_eq_some_iff.1 same.symm
    exact none token left leads
  · obtain ⟨rfl, isOne⟩ := oneOf_eq_ok.1 taken
    exact (inner token rest rfl isOne stops).token fun other => oneOf_eq_ok.2 ⟨rfl, isOne⟩

theorem blames_expect {kind : Token.Kind} {next : Token → Parse β}
    (failed : (expect kind >>= next) tokens = .error error)
    (goesOn : ∀ token, token.kind = kind → ∃ more, goal (token :: more))
    (inner : ∀ token rest, tokens = token :: rest → token.kind = kind →
      next token rest = .error error →
        Blames (fun phrase => goal (token :: phrase)) (next token) rest error) :
    Blames goal (expect kind >>= next) tokens error := by
  rw [expect] at failed ⊢
  refine blames_oneOf (List.cons_ne_nil _ _) failed ?_ ?_
  · exact fun token isKind => goesOn token (List.mem_singleton.1 isKind)
  · exact fun token rest same isKind => inner token rest same (List.mem_singleton.1 isKind)

theorem blames_last {kind : Token.Kind} {a : β}
    (failed : (expect kind >>= fun _ => pure a) tokens = .error error)
    (completes : ∀ token, token.kind = kind → goal [token]) :
    Blames goal (expect kind >>= fun _ => pure a) tokens error :=
  blames_expect failed (fun token isKind => ⟨[], completes token isKind⟩)
    fun _ _ _ _ finish => nomatch finish

theorem blames_map {rule : Parse α} {f : α → β}
    (failed : (rule >>= fun a => pure (f a)) tokens = .error error)
    (inner : rule tokens = .error error → Blames part rule tokens error)
    (completes : ∀ phrase, part phrase → goal phrase) :
    Blames goal (rule >>= fun a => pure (f a)) tokens error :=
  (inner (map_eq_error.1 failed)).bind fun phrase whole =>
    ⟨[], by simpa using completes phrase whole⟩

/-- Behind an item of a list in brackets comes a comma and the rest of the list, or the end. -/
theorem blames_separated {rule : Parse α} {f : α → β} {b : β}
    (failed : (do
      let mark ← oneOf [.comma, .rparen]
      match mark.kind with
      | .comma => return f (← rule)
      | _ => return b) tokens = .error error)
    (inner : ∀ comma rest, tokens = comma :: rest → rule rest = .error error →
      Blames part rule rest error)
    (another : ∃ phrase, part phrase)
    (more : ∀ comma phrase, comma.kind = .comma → part phrase → goal (comma :: phrase))
    (last : ∀ closing, closing.kind = .rparen → goal [closing]) :
    Blames goal (do
      let mark ← oneOf [.comma, .rparen]
      match mark.kind with
      | .comma => return f (← rule)
      | _ => return b : Parse β) tokens error := by
  refine blames_oneOf (List.cons_ne_nil _ _) failed (fun mark isMark => ?_)
    fun mark rest split isMark stops => ?_
  · simp only [List.mem_cons, List.not_mem_nil, or_false] at isMark
    rcases isMark with isComma | isClosing
    · obtain ⟨phrase, whole⟩ := another
      exact ⟨phrase, more mark phrase isComma whole⟩
    · exact ⟨[], last mark isClosing⟩
  · simp only [List.mem_cons, List.not_mem_nil, or_false] at isMark
    rcases isMark with isComma | isClosing
    · simp only [isComma] at stops ⊢
      exact blames_map stops (inner mark rest split) fun phrase => more mark phrase isComma
    · simp only [isClosing] at stops
      cases stops

theorem blames_bind {rule : Parse α} {next : α → Parse β} (steady : Steady rule)
    (failed : (rule >>= next) tokens = .error error)
    (first : rule tokens = .error error → Blames part rule tokens error)
    (completes : ∀ phrase, part phrase → ∃ more, goal (phrase ++ more))
    (shallow : ∀ a, next a [] ≠ .error .nestingTooDeep)
    (second : ∀ a used rest, tokens = used ++ rest → rule (used ++ rest) = .ok (a, rest) →
      next a rest = .error error →
        Blames (fun phrase => goal (used ++ phrase)) (next a) rest error) :
    Blames goal (rule >>= next) tokens error := by
  rcases bind_eq_error.1 failed with refused | ⟨a, rest, read, stops⟩
  · exact (first refused).bind completes
  · obtain ⟨used, rfl, again⟩ := steady _ _ _ read
    refine (second a used rest rfl read stops).after used ?_ ?_ ?_
    · exact fun other same failed => (bind_of_ok (again other same)).trans failed
    · rintro rfl rfl
      exact absurd stops (shallow a)
    · exact fun phrase whole => ⟨[], by simpa using whole⟩

theorem blames_firm {rule : Parse α} {next : α → Parse β} (firm : Firm rule)
    (failed : (rule >>= next) tokens = .error error)
    (first : rule tokens = .error error → Blames part rule tokens error)
    (completes : ∀ phrase, part phrase → ∃ more, goal (phrase ++ more))
    (second : ∀ a used rest, rule (used ++ rest) = .ok (a, rest) → next a rest = .error error →
      Blames (fun phrase => goal (used ++ phrase)) (next a) rest error) :
    Blames goal (rule >>= next) tokens error := by
  rcases bind_eq_error.1 failed with refused | ⟨a, rest, read, stops⟩
  · exact (first refused).bind completes
  · obtain ⟨used, rfl, again⟩ := firm _ _ _ read
    refine (second a used rest read stops).after used ?_ ?_ ?_
    · exact fun other _ failed => (bind_of_ok (again other)).trans failed
    · exact fun _ _ other failed => (bind_of_ok (again other)).trans failed
    · exact fun phrase whole => ⟨[], by simpa using whole⟩

theorem oneOf_nil {kinds : List Token.Kind} {next : Token → Parse β} :
    (oneOf kinds >>= next) [] ≠ .error .nestingTooDeep := by
  rw [bind_of_error rfl]
  exact nofun

theorem expect_nil {kind : Token.Kind} {next : Token → Parse β} :
    (expect kind >>= next) [] ≠ .error .nestingTooDeep := oneOf_nil

theorem skip?_ne_error {kind : Token.Kind} : skip? kind tokens ≠ .error error := by
  intro failed
  cases tokens with
  | nil => cases failed
  | cons token rest =>
    rw [skip?] at failed
    split at failed <;> cases failed

theorem operator?_ne_error {ofKind? : Token.Kind → Option Operator} :
    operator? ofKind? tokens ≠ .error error := by
  intro failed
  cases tokens with
  | nil => cases failed
  | cons token rest =>
    rw [operator?] at failed
    split at failed <;> cases failed

theorem IsLoop.nil_ne_error {ofKind? : Token.Kind → Option Operator} {operand : Nat → Parse Expr}
    {tail : Nat → Expr → Parse Expr} (loop : IsLoop ofKind? operand tail) (left : Expr) :
    tail levels left [] ≠ .error error := by
  have stops : tail levels left [] = .ok (left, []) := loop.eq_ok.2 (.stop nofun)
  rw [stops]
  exact nofun

theorem IsLoop.blames {ofKind? : Token.Kind → Option Operator} {operand : Nat → Parse Expr}
    {tail : Nat → Expr → Parse Expr} (loop : IsLoop ofKind? operand tail) {left : Expr}
    {whole : List Token → Prop} (steady : ∀ k, Steady (operand k))
    (operands : ∀ k < levels, ∀ tokens error, operand k tokens = .error error →
      Blames part (operand k) tokens error)
    (parts : ∀ k a used rest, operand k (used ++ rest) = .ok (a, rest) → part used)
    (fold : ∀ token op front phrase, ofKind? token.kind = some op → whole front → part phrase →
      whole (front ++ token :: phrase))
    (failed : tail levels left tokens = .error error) :
    Blames (fun phrase => ∀ front, whole front → whole (front ++ phrase)) (tail levels left) tokens
      error := by
  induction levels generalizing left tokens with
  | zero =>
    rw [loop] at failed ⊢
    rcases bind_eq_error.1 failed with refused | ⟨op?, rest, first, stops⟩
    · exact absurd refused operator?_ne_error
    · cases op? with
      | none => cases stops
      | some op =>
        obtain ⟨token, rfl, isOp⟩ := operator?_eq_ok.1 first
        cases stops
        refine .token (a := some op) (fun other => operator?_eq_ok.2 ⟨token, rfl, isOp⟩) ?_
        exact .deep [] rest rfl rfl fun _ => rfl
  | succ levels ih =>
    rw [loop] at failed ⊢
    rcases bind_eq_error.1 failed with refused | ⟨op?, rest, first, stops⟩
    · exact absurd refused operator?_ne_error
    · cases op? with
      | none => cases stops
      | some op =>
        obtain ⟨token, rfl, isOp⟩ := operator?_eq_ok.1 first
        refine .token (a := some op) (fun other => operator?_eq_ok.2 ⟨token, rfl, isOp⟩) ?_
        refine blames_bind (steady levels) stops (operands levels (Nat.lt_succ_self _) rest error)
          (fun phrase right => ⟨[], ?_⟩) (fun _ => loop.nil_ne_error _)
          fun right used rest _ read failed => ?_
        · intro front left
          rw [List.append_nil]
          exact fold token op front phrase isOp left right
        · refine (ih (fun k small => operands k (by omega)) failed).mono ?_
          intro phrase continues front left
          have folded := continues _ (fold token op front used isOp left (parts _ _ _ _ read))
          simpa using folded

/-- Wherever the rule fails, it is because of the first token that fits nowhere. -/
def Predicts (goal : List Token → Prop) (rule : Parse α) : Prop :=
  ∀ tokens error, rule tokens = .error error → Blames goal rule tokens error

open Phrase

section Read

variable {used : List Token}

theorem whole_of_factor {value : Expr} (read : factor levels (used ++ rest) = .ok (value, rest)) :
    Phrase.factor.Whole used :=
  whole_of_derives (sound_factor levels _ _ _ read) nofun

theorem whole_of_term {value : Expr} (read : term levels (used ++ rest) = .ok (value, rest)) :
    Phrase.term.Whole used :=
  whole_of_derives (sound_term (fun k _ => sound_factor k) _ _ _ read) nofun

theorem whole_of_expr {value : Expr} (read : expr levels (used ++ rest) = .ok (value, rest)) :
    Phrase.expr.Whole used :=
  whole_of_derives (sound_expr levels _ _ _ read) nofun

theorem whole_of_condition {cond : Expr}
    (read : condition levels (used ++ rest) = .ok (cond, rest)) : Phrase.condition.Whole used :=
  whole_of_derives (sound_condition (condition_eq_ok read)) nofun

theorem whole_of_statement {stmt : Stmt}
    (read : statement levels (used ++ rest) = .ok (stmt, rest)) : Phrase.statement.Whole used :=
  whole_of_derives (sound_statement levels _ _ _ read) nofun

end Read

theorem predicts_term (upTo : ∀ k ≤ levels, Predicts Phrase.factor.Whole (factor k)) :
    Predicts Phrase.term.Whole (term levels) := by
  intro tokens error failed
  rw [term] at failed ⊢
  refine blames_bind (steady_factor levels) failed (upTo levels (Nat.le_refl _) tokens error)
    (fun phrase value => ⟨[], by simpa using whole_term value⟩) isLoop_termTail.nil_ne_error
    fun first used rest _ read stops => ?_
  have start := whole_term (whole_of_factor read)
  refine (isLoop_termTail.blames steady_factor (fun k small => upTo k (by omega))
    (fun k a used rest => whole_of_factor) ?_ stops).mono fun phrase continues =>
      continues used start
  exact fun token op front phrase isOp left => whole_product left (multiplicative?_eq_some isOp).2

theorem predicts_expr_of (upTo : ∀ k ≤ levels, Predicts Phrase.factor.Whole (factor k)) :
    Predicts Phrase.expr.Whole (expr levels) := by
  intro tokens error failed
  have steadyTerm (k : Nat) : Steady (term k) := steady_term fun j _ => steady_factor j
  rw [expr] at failed ⊢
  refine blames_bind (steadyTerm levels) failed (predicts_term upTo tokens error)
    (fun phrase value => ⟨[], by simpa using whole_expr value⟩) isLoop_exprTail.nil_ne_error
    fun first used rest _ read stops => ?_
  have start := whole_expr (whole_of_term read)
  refine (isLoop_exprTail.blames steadyTerm
    (fun k small => predicts_term fun j smaller => upTo j (by omega))
    (fun k a used rest => whole_of_term) ?_ stops).mono fun phrase continues =>
      continues used start
  exact fun token op front phrase isOp left => whole_sum left (additive?_eq_some isOp).2

/-- The arguments of a call from the first one on. -/
def argumentList (levels : Nat) : Parse (List Expr) :=
  fun tokens => argumentsFrom levels tokens.length tokens

theorem argumentsFrom_congr {bound other : Nat} (enough : tokens.length ≤ bound)
    (enoughOther : tokens.length ≤ other) :
    argumentsFrom levels bound tokens = argumentsFrom levels other tokens := by
  induction bound generalizing other tokens with
  | zero =>
    rw [argumentsFrom, argumentsFrom]
    cases read : expr levels tokens with
    | error fault => rw [bind_of_error read, bind_of_error read]
    | ok result =>
      have shorter := shrinks_expr levels _ _ _ read
      omega
  | succ bound ih =>
    rw [argumentsFrom, argumentsFrom]
    cases read : expr levels tokens with
    | error fault => rw [bind_of_error read, bind_of_error read]
    | ok result =>
      have shorter := shrinks_expr levels _ _ _ read
      obtain ⟨other, rfl⟩ : ∃ less, other = less + 1 := ⟨other - 1, by omega⟩
      rw [bind_of_ok read, bind_of_ok read]
      cases marked : oneOf [.comma, .rparen] result.2 with
      | error fault => rw [bind_of_error marked, bind_of_error marked]
      | ok mark =>
        have less := shrinks_oneOf _ _ _ _ marked
        rw [bind_of_ok marked, bind_of_ok marked]
        cases mark.1.kind with
        | comma =>
          have same : argumentsFrom levels bound mark.2 = argumentsFrom levels other mark.2 :=
            ih (by omega) (by omega)
          simp only [bind, StateT.bind, same]
        | _ => rfl

theorem argumentList_eq : argumentList levels = do
    let arg ← expr levels
    let mark ← oneOf [.comma, .rparen]
    match mark.kind with
    | .comma => return arg :: (← argumentList levels)
    | _ => return [arg] := by
  funext tokens
  rw [argumentList, argumentsFrom]
  cases read : expr levels tokens with
  | error fault => rw [bind_of_error read, bind_of_error read]
  | ok result =>
    have shorter := shrinks_expr levels _ _ _ read
    rw [bind_of_ok read, bind_of_ok read]
    cases marked : oneOf [.comma, .rparen] result.2 with
    | error fault => rw [bind_of_error marked, bind_of_error marked]
    | ok mark =>
      have less := shrinks_oneOf _ _ _ _ marked
      rw [bind_of_ok marked, bind_of_ok marked]
      obtain ⟨bound, size⟩ : ∃ bound, tokens.length = bound + 1 := ⟨tokens.length - 1, by omega⟩
      rw [size]
      cases mark.1.kind with
      | comma =>
        have same : argumentsFrom levels bound mark.2 = argumentList levels mark.2 :=
          argumentsFrom_congr (by omega) (Nat.le_refl _)
        simp only [bind, StateT.bind, same]
      | _ => rfl

theorem predicts_argumentList (inner : Predicts Phrase.expr.Whole (expr levels)) :
    Predicts Phrase.argumentList.Whole (argumentList levels) := by
  intro tokens error failed
  induction length : tokens.length using Nat.strongRecOn generalizing tokens with
  | ind size ih =>
    rw [argumentList_eq] at failed ⊢
    refine blames_bind (steady_expr levels) failed (inner tokens error)
      (fun phrase value => ⟨[⟨.rparen, none⟩], whole_argumentLast value rfl⟩)
      (fun _ => oneOf_nil) fun arg used rest split read stops => ?_
    have value := whole_of_expr read
    have another : Phrase.argumentList.Whole [⟨.num, none⟩, ⟨.rparen, none⟩] :=
      whole_argumentLast whole_zero rfl
    refine blames_separated stops (fun comma others same fails => ?_) ⟨_, another⟩
      (fun comma phrase => whole_argumentMore value) fun closing => whole_argumentLast value
    have shorter : others.length < size := by
      simp only [← length, split, same, List.length_append, List.length_cons]
      omega
    exact ih others.length shorter others fails rfl

theorem arguments_of_open (notClosed : ¬Leads .rparen tokens) :
    arguments levels tokens = argumentList levels tokens := by
  have skipped : skip? .rparen tokens = .ok (false, tokens) := skip?_eq_ok.2 ⟨rfl, notClosed⟩
  rw [arguments, bind_of_ok skipped]
  rfl

/-- At the end of the tokens an argument may lack a level although no argument has to come. -/
theorem blames_arguments (inner : Predicts Phrase.expr.Whole (expr levels))
    (failed : arguments levels tokens = .error error) :
    Blames Phrase.arguments.Whole (arguments levels) tokens error ∨
      (tokens = [] ∧ error = .nestingTooDeep ∧
        ∀ other, ¬Leads .rparen other → arguments levels other = .error error) := by
  have notClosed : ¬Leads .rparen tokens := by
    rintro ⟨closing, rest, rfl, isClosing⟩
    rw [arguments_of_none isClosing] at failed
    cases failed
  rw [arguments_of_open notClosed] at failed
  have blames := predicts_argumentList inner tokens error failed
  by_cases atEnd : tokens = [] ∧ error = .nestingTooDeep
  · obtain ⟨rfl, rfl⟩ := atEnd
    refine .inr ⟨rfl, rfl, fun other stillOpen => ?_⟩
    rw [arguments_of_open stillOpen]
    cases blames with
    | unexpected front rest expected split isFault =>
      rw [(List.append_eq_nil_iff.1 split.symm).2] at isFault
      cases isFault
    | deep front rest split _ again =>
      rw [(List.append_eq_nil_iff.1 split.symm).1] at again
      exact again other
    | unclosed front name opening split => simp at split
  · refine .inl (blames.after [] (fun other same fails => ?_) ?_ fun phrase list => ⟨[], ?_⟩)
    · rw [List.nil_append, arguments_of_open (mt (Token.leads_of_head? same) notClosed)]
      exact fails
    · exact fun isEnd isDeep => absurd ⟨isEnd, isDeep⟩ atEnd
    · rw [List.append_nil]
      exact whole_arguments list

theorem factor_call {name opening : Token} (isName : name.kind = .ident)
    (isOpening : opening.kind = .lparen) (rest : List Token) :
    factor (levels + 1) (name :: opening :: rest) =
      (arguments levels >>= fun args => pure (.call name.text args)) rest := by
  have taken : oneOf [.num, .ident, .lparen] (name :: opening :: rest) =
      .ok (name, opening :: rest) := oneOf_eq_ok.2 ⟨rfl, by simp [isName]⟩
  have opened : skip? .lparen (opening :: rest) = .ok (true, rest) :=
    skip?_eq_ok.2 ⟨opening, rfl, isOpening⟩
  rw [factor, bind_of_ok taken]
  simp only [isName]
  rw [bind_of_ok opened]
  rfl

theorem blames_call {name opening : Token} (isName : name.kind = .ident)
    (isOpening : opening.kind = .lparen) (inner : Predicts Phrase.expr.Whole (expr levels))
    (failed : factor (levels + 1) (name :: opening :: rest) = .error error) :
    Blames Phrase.factor.Whole (factor (levels + 1)) (name :: opening :: rest) error := by
  have calls (other : List Token) (fails : arguments levels other = .error error) :
      factor (levels + 1) (name :: opening :: other) = .error error := by
    rw [factor_call isName isOpening]
    exact bind_of_error fails
  rw [factor_call isName isOpening, map_eq_error] at failed
  rcases blames_arguments inner failed with blames | ⟨rfl, isDeep, again⟩
  · refine blames.after [name, opening] (fun other _ => calls other) (fun _ _ => calls)
      fun phrase args => ⟨[], ?_⟩
    rw [List.append_nil]
    exact whole_call isName isOpening args
  · exact .unclosed [] name opening rfl isDeep isName isOpening fun other notClosed =>
      calls other (again other notClosed)

theorem predicts_group {opening : Token} (isOpening : opening.kind = .lparen)
    (inner : Predicts Phrase.expr.Whole (expr levels)) :
    Predicts (fun phrase => Phrase.factor.Whole (opening :: phrase)) (do
      let value ← expr levels
      let _ ← expect .rparen
      return value) := by
  intro tokens error failed
  refine blames_bind (steady_expr levels) failed (inner tokens error)
    (fun phrase value => ⟨[⟨.rparen, none⟩], whole_group isOpening value rfl⟩)
    (fun _ => expect_nil) fun _ used rest _ read stops => ?_
  exact blames_last stops fun closing => whole_group isOpening (whole_of_expr read)

theorem predicts_factor (levels : Nat) : Predicts Phrase.factor.Whole (factor levels) := by
  induction levels using Nat.strongRecOn with
  | ind levels ih =>
    intro tokens error failed
    cases levels with
    | zero =>
      rw [factor] at failed ⊢
      cases failed
      exact .deep [] tokens rfl rfl fun _ => rfl
    | succ levels =>
      have inner : Predicts Phrase.expr.Whole (expr levels) :=
        predicts_expr_of fun k small => ih k (by omega)
      -- A call is to blame in a way of its own, if the tokens end behind its opening bracket.
      by_cases isCall : ∃ name opening rest, tokens = name :: opening :: rest ∧
          name.kind = .ident ∧ opening.kind = .lparen
      · obtain ⟨name, opening, rest, rfl, isName, isOpening⟩ := isCall
        exact blames_call isName isOpening inner failed
      · rw [factor] at failed ⊢
        refine blames_oneOf (List.cons_ne_nil _ _) failed (fun token => exists_factor)
          fun token rest same isOne stops => ?_
        subst same
        simp only [List.mem_cons, List.not_mem_nil, or_false] at isOne
        rcases isOne with isNum | isName | isOpening
        · simp only [isNum] at stops
          cases stops
        · have notCalled : skip? .lparen rest = .ok (false, rest) := by
            refine skip?_eq_ok.2 ⟨rfl, ?_⟩
            rintro ⟨opening, others, rfl, isOpening⟩
            exact isCall ⟨token, opening, others, rfl, isName, isOpening⟩
          simp only [isName] at stops
          rw [bind_of_ok notCalled] at stops
          cases stops
        · simp only [isOpening] at stops ⊢
          exact predicts_group isOpening inner rest error stops

theorem predicts_expr (levels : Nat) : Predicts Phrase.expr.Whole (expr levels) :=
  predicts_expr_of fun k _ => predicts_factor k

theorem predicts_condition (levels : Nat) : Predicts Phrase.condition.Whole (condition levels) := by
  intro tokens error failed
  rw [condition] at failed ⊢
  refine blames_bind (steady_expr levels) failed (predicts_expr levels tokens error)
    (fun phrase value => ⟨[], by simpa using whole_condition value⟩)
    (fun _ isDeep => by cases isDeep)
    fun left used rest _ read stops => ?_
  have first := whole_of_expr read
  rcases bind_eq_error.1 stops with refused | ⟨op?, last, compared, fails⟩
  · exact absurd refused operator?_ne_error
  · cases op? with
    | none => cases fails
    | some op =>
      obtain ⟨token, rfl, isOp⟩ := operator?_eq_ok.1 compared
      obtain ⟨rel, isRel, -⟩ := relational?_eq_some isOp
      refine .token (a := some op) (fun other => operator?_eq_ok.2 ⟨token, rfl, isOp⟩) ?_
      exact blames_map fails (predicts_expr levels last error) fun phrase =>
        whole_compare first isRel

theorem predicts_guard (levels : Nat) : Predicts Guards (guard levels) := by
  intro tokens error failed
  rw [guard] at failed ⊢
  refine blames_expect failed (fun opening isOpening => ?_) fun opening rest _ isOpening stops => ?_
  · exact ⟨[⟨.num, none⟩, ⟨.rparen, none⟩], opening, [⟨.num, none⟩], ⟨.rparen, none⟩, rfl,
      isOpening, whole_condition whole_zero, rfl⟩
  · refine blames_bind (steady_condition levels) stops (predicts_condition levels rest error)
      (fun phrase cond => ⟨[⟨.rparen, none⟩], opening, phrase, _, rfl, isOpening, cond, rfl⟩)
      (fun _ => expect_nil) fun value used rest _ read fails => ?_
    have cond := whole_of_condition read
    exact blames_last fails fun closing isClosing =>
      ⟨opening, used, closing, rfl, isOpening, cond, isClosing⟩

theorem guards_of_read {cond : Expr} {used : List Token}
    (read : guard levels (used ++ rest) = .ok (cond, rest)) : Guards used := by
  obtain ⟨opening, closing, inner, split, isOpening, test, isClosing⟩ := guard_eq_ok read
  obtain ⟨phrase, rfl, -⟩ := (sound_condition test).exists_used nofun
  have whole := whole_of_derives (sound_condition test) nofun
  have same : used ++ rest = (opening :: (phrase ++ [closing])) ++ rest := by simpa using split
  exact ⟨opening, phrase, closing, List.append_cancel_right same, isOpening, whole, isClosing⟩

theorem parametersFrom_eq : parametersFrom = do
    let name ← expect .ident
    let mark ← oneOf [.comma, .rparen]
    match mark.kind with
    | .comma => return name.text :: (← parametersFrom)
    | _ => return [name.text] := by
  funext tokens
  cases tokens with
  | nil => rfl
  | cons name tail =>
    by_cases isName : name.kind = .ident
    · rw [bind_of_ok (expect_eq_ok.2 ⟨rfl, isName⟩)]
      cases tail with
      | nil =>
        simp only [parametersFrom, isName, if_true]
        rfl
      | cons mark rest =>
        by_cases isMark : mark.kind ∈ [.comma, .rparen]
        · rw [bind_of_ok (oneOf_eq_ok.2 ⟨rfl, isMark⟩)]
          simp only [List.mem_cons, List.not_mem_nil, or_false] at isMark
          rcases isMark with isComma | isClosing
          · simp only [parametersFrom, isName, isComma, if_true]
            cases read : parametersFrom rest with
            | error fault => rw [bind_of_error read]
            | ok result => rw [bind_of_ok read]; rfl
          · simp only [parametersFrom, isName, isClosing, if_true]
            rfl
        · have refused : oneOf [.comma, .rparen] (mark :: rest) =
              .error (fault [.comma, .rparen] (mark :: rest)) :=
            oneOf_eq_error.2 ⟨rfl, by rintro _ _ ⟨⟩; exact isMark⟩
          rw [bind_of_error refused]
          simp only [List.mem_cons, List.not_mem_nil, or_false, not_or] at isMark
          simp only [parametersFrom, isName, if_true]
          split
          · exact absurd ‹_› isMark.1
          · exact absurd ‹_› isMark.2
          · rfl
    · have refused : expect .ident (name :: tail) = .error (fault [.ident] (name :: tail)) :=
        oneOf_eq_error.2 ⟨rfl, by simp [isName]⟩
      rw [bind_of_error refused]
      cases tail <;> simp only [parametersFrom, isName, if_false]

theorem predicts_parametersFrom : Predicts Phrase.parameterList.Whole parametersFrom := by
  intro tokens error failed
  induction length : tokens.length using Nat.strongRecOn generalizing tokens with
  | ind size ih =>
    rw [parametersFrom_eq] at failed ⊢
    refine blames_expect failed (fun name isName => ?_) fun name rest split isName stops => ?_
    · exact ⟨[⟨.rparen, none⟩], whole_parameterLast isName rfl⟩
    · have another : Phrase.parameterList.Whole [⟨.ident, none⟩, ⟨.rparen, none⟩] :=
        whole_parameterLast rfl rfl
      refine blames_separated stops (fun comma others same fails => ?_) ⟨_, another⟩
        (fun comma phrase => whole_parameterMore isName) fun closing => whole_parameterLast isName
      have shorter : others.length < size := by
        simp only [← length, split, same, List.length_cons]
        omega
      exact ih others.length shorter others fails rfl

theorem parameters_of_name {opening name : Token} (isOpening : opening.kind = .lparen)
    (isName : name.kind = .ident) :
    parameters (opening :: name :: rest) = parametersFrom (name :: rest) := by
  have notClosed : skip? .rparen (name :: rest) = .ok (false, name :: rest) :=
    skip?_eq_ok.2 ⟨rfl, by simp [Token.leads_cons, isName]⟩
  have got : (get : Parse (List Token)) (name :: rest) = .ok (name :: rest, name :: rest) := rfl
  rw [parameters, bind_of_ok (expect_eq_ok.2 ⟨rfl, isOpening⟩), bind_of_ok notClosed]
  refine (bind_of_ok got).trans ?_
  simp only [if_pos isName]

theorem parameters_of_other {opening : Token} (isOpening : opening.kind = .lparen)
    (notClosed : ¬Leads .rparen tokens) (noName : ¬Leads .ident tokens) :
    parameters (opening :: tokens) = .error (fault [.ident, .rparen] tokens) := by
  have skipped : skip? .rparen tokens = .ok (false, tokens) := skip?_eq_ok.2 ⟨rfl, notClosed⟩
  have got : (get : Parse (List Token)) tokens = .ok (tokens, tokens) := rfl
  rw [parameters, bind_of_ok (expect_eq_ok.2 ⟨rfl, isOpening⟩), bind_of_ok skipped]
  refine (bind_of_ok got).trans ?_
  cases tokens with
  | nil => rfl
  | cons token rest =>
    rw [Token.leads_cons] at noName
    simp only [if_neg noName]
    rfl

theorem blames_declared {opening : Token} (isOpening : opening.kind = .lparen)
    (failed : parameters (opening :: rest) = .error error) :
    Blames Declares parameters (opening :: rest) error := by
  have notClosed : ¬Leads .rparen rest := by
    rintro ⟨closing, others, rfl, isClosing⟩
    rw [parameters_of_none isOpening isClosing] at failed
    cases failed
  by_cases named : Leads .ident rest
  · obtain ⟨name, others, rfl, isName⟩ := named
    rw [parameters_of_name isOpening isName] at failed
    refine (predicts_parametersFrom _ _ failed).after [opening] (fun other same fails => ?_) nofun
      fun phrase list => ⟨[], opening, _, rfl, isOpening, ?_⟩
    · obtain ⟨left, rfl⟩ := List.head?_eq_some_iff.1 same
      exact (parameters_of_name isOpening isName).trans fails
    · intro tail noElse
      obtain ⟨nodes, derives⟩ := list tail noElse
      exact ⟨nodes, by simpa using Derives.parametersSome derives⟩
  · rw [parameters_of_other isOpening notClosed named, Except.error.injEq] at failed
    refine .unexpected [opening] rest [.ident, .rparen] rfl failed.symm nofun (fun other same => ?_)
      fun token isOne => ?_
    · rw [← failed, ← fault_congr same]
      exact parameters_of_other isOpening (mt (Token.leads_of_head? same) notClosed)
        (mt (Token.leads_of_head? same) named)
    · simp only [List.mem_cons, List.not_mem_nil, or_false] at isOne
      rcases isOne with isName | isClosing
      · exact ⟨[⟨.rparen, none⟩], opening, _, rfl, isOpening, fun _ _ =>
          ⟨_, .parametersSome (.parameterLast isName rfl)⟩⟩
      · exact ⟨[], opening, _, rfl, isOpening, fun _ _ => ⟨_, .parametersNone isClosing⟩⟩

theorem predicts_parameters : Predicts Declares parameters := by
  intro tokens error failed
  by_cases opened : Leads .lparen tokens
  · obtain ⟨opening, rest, rfl, isOpening⟩ := opened
    exact blames_declared isOpening failed
  · rw [parameters] at failed ⊢
    refine blames_expect failed (fun opening isOpening => ?_) fun opening rest same isOpening => ?_
    · exact ⟨[⟨.rparen, none⟩], opening, _, rfl, isOpening, fun _ _ => ⟨_, .parametersNone rfl⟩⟩
    · exact absurd ⟨opening, rest, same, isOpening⟩ opened

theorem declares_of_read {params : List String} {used : List Token}
    (read : parameters (used ++ rest) = .ok (params, rest)) : Declares used := by
  obtain ⟨opening, inner, split, isOpening, listed⟩ := parameters_eq_ok read
  have derives : ∃ nodes, Derives .parameters inner nodes rest := by
    rcases listed with ⟨-, closing, rfl, isClosing⟩ | listed
    · exact ⟨_, .parametersNone isClosing⟩
    · exact ⟨_, .parametersSome (sound_parameterList listed)⟩
  obtain ⟨nodes, derives⟩ := derives
  obtain ⟨phrase, rfl, -⟩ := derives.exists_used nofun
  have same : used ++ rest = (opening :: phrase) ++ rest := split
  exact ⟨opening, phrase, List.append_cancel_right same, isOpening, whole_of_derives derives nofun⟩

section Statements

variable {word : Token}

theorem predicts_assign (isName : word.kind = .ident) (levels : Nat) :
    Predicts (fun phrase => Phrase.statement.Whole (word :: phrase)) (do
      let _ ← expect .assign
      let value ← expr levels
      let _ ← expect .semi
      return Stmt.assign word.text value) := by
  intro tokens error failed
  refine blames_expect failed (fun mark isMark => ?_) fun mark rest _ isMark stops => ?_
  · exact ⟨[⟨.num, none⟩, ⟨.semi, none⟩], whole_assign isName isMark whole_zero rfl⟩
  · refine blames_bind (steady_expr levels) stops (predicts_expr levels rest error)
      (fun phrase value => ⟨[⟨.semi, none⟩], whole_assign isName isMark value rfl⟩)
      (fun _ => expect_nil) fun _ used rest _ read fails => ?_
    have value := whole_of_expr read
    exact blames_last fails fun semi => whole_assign isName isMark value

theorem predicts_print (isWord : word.kind = .printWord) (levels : Nat) :
    Predicts (fun phrase => Phrase.statement.Whole (word :: phrase)) (do
      let _ ← expect .lparen
      let value ← expr levels
      let _ ← expect .rparen
      let _ ← expect .semi
      return Stmt.print value) := by
  intro tokens error failed
  refine blames_expect failed (fun opening isOpening => ?_) fun opening rest _ isOpening stops => ?_
  · exact ⟨[⟨.num, none⟩, ⟨.rparen, none⟩, ⟨.semi, none⟩],
      whole_print isWord isOpening whole_zero rfl rfl⟩
  · refine blames_bind (steady_expr levels) stops (predicts_expr levels rest error)
      (fun phrase value => ⟨[⟨.rparen, none⟩, ⟨.semi, none⟩],
        whole_print isWord isOpening value rfl rfl⟩)
      (fun _ => expect_nil) fun _ used rest _ read fails => ?_
    have value := whole_of_expr read
    refine blames_expect fails (fun closing isClosing => ⟨[⟨.semi, none⟩], ?_⟩)
      fun closing rest _ isClosing ends => ?_
    · exact whole_print isWord isOpening value isClosing rfl
    · exact blames_last ends fun semi => whole_print isWord isOpening value isClosing

variable (inner : Predicts Phrase.statement.Whole (statement levels))
include inner

theorem predicts_if (isWord : word.kind = .ifWord) :
    Predicts (fun phrase => Phrase.statement.Whole (word :: phrase)) (do
      let cond ← guard levels
      let body ← statement levels
      if ← skip? .elseWord then
        return .ifElse cond body (← statement levels)
      else
        return Stmt.ifThen cond body) := by
  intro tokens error failed
  refine blames_firm (firm_guard levels) failed (predicts_guard levels tokens error)
    (fun phrase test => ⟨_, whole_ifThen isWord test whole_assignment⟩)
    fun cond front rest read stops => ?_
  have test := guards_of_read read
  refine blames_bind (steady_statement levels) stops (inner rest error)
    (fun phrase body => ⟨[], by simpa using whole_ifThen isWord test body⟩) (fun _ => nofun)
    fun body used rest _ read fails => ?_
  rcases bind_eq_error.1 fails with refused | ⟨taken, last, skipped, ends⟩
  · exact absurd refused skip?_ne_error
  · have skipped := skip?_eq_ok.1 skipped
    cases taken with
    | false => cases ends
    | true =>
      obtain ⟨otherwise, rfl, isElse⟩ := skipped
      have closed (other : List Token) (_ : Leads .elseWord other) :
          ∃ node, Derives .statement (used ++ other) node other :=
        ⟨_, (sound_statement levels _ _ _ read).before nofun fun _ => Token.leads_cons.2 isElse⟩
      refine .token (a := true) (fun other => skip?_eq_ok.2 ⟨otherwise, rfl, isElse⟩) ?_
      exact blames_map ends (inner last error) fun phrase => whole_ifElse isWord test closed isElse

theorem predicts_while (isWord : word.kind = .whileWord) :
    Predicts (fun phrase => Phrase.statement.Whole (word :: phrase)) (do
      let cond ← guard levels
      return Stmt.loop cond (← statement levels)) := by
  intro tokens error failed
  refine blames_firm (firm_guard levels) failed (predicts_guard levels tokens error)
    (fun phrase test => ⟨_, whole_loop isWord test whole_assignment⟩)
    fun cond front rest read stops => ?_
  exact blames_map stops (inner rest error) fun phrase => whole_loop isWord (guards_of_read read)

theorem predicts_function (isWord : word.kind = .functionWord) :
    Predicts (fun phrase => Phrase.statement.Whole (word :: phrase)) (do
      let name ← expect .ident
      let params ← parameters
      return Stmt.function name.text params (← statement levels)) := by
  intro tokens error failed
  refine blames_expect failed (fun name isName => ?_) fun name rest _ isName stops => ?_
  · exact ⟨_, whole_function isWord isName declares_none whole_assignment⟩
  · refine blames_firm firm_parameters stops (predicts_parameters rest error)
      (fun phrase params => ⟨_, whole_function isWord isName params whole_assignment⟩)
      fun params front rest read fails => ?_
    exact blames_map fails (inner rest error) fun phrase =>
      whole_function isWord isName (declares_of_read read)

end Statements

theorem predicts_statement (levels : Nat) :
    Predicts Phrase.statement.Whole (statement levels) := by
  induction levels with
  | zero =>
    intro tokens error failed
    rw [statement] at failed ⊢
    cases failed
    exact .deep [] tokens rfl rfl fun _ => rfl
  | succ levels ih =>
    intro tokens error failed
    rw [statement] at failed ⊢
    refine blames_oneOf (List.cons_ne_nil _ _) failed (fun token => exists_statement)
      fun token rest _ isOne stops => ?_
    simp only [List.mem_cons, List.not_mem_nil, or_false] at isOne
    rcases isOne with isName | isWord | isWord | isWord | isWord
    · simp only [isName] at stops ⊢
      exact predicts_assign isName levels rest error stops
    · simp only [isWord] at stops ⊢
      exact predicts_if ih isWord rest error stops
    · simp only [isWord] at stops ⊢
      exact predicts_while ih isWord rest error stops
    · simp only [isWord] at stops ⊢
      exact predicts_print isWord levels rest error stops
    · simp only [isWord] at stops ⊢
      exact predicts_function ih isWord rest error stops

end Parse

end ImpToC
