import ImpToC.Proofs.Cursor

/-! How the parser keeps its cursor. A rule that is entered somewhere among the tokens, with no
more levels taken than there are, always comes back: further on and at the level it was entered
at, or with a fault and at a level at least as deep. On its way it comes to no cursor in front of
the one it was entered at, to none behind the last token and to none below the deepest level.

All of this is proved of one move at a time, together with what the rule gives for the tokens
and the levels that are left. Moves are compared for all the depths at which calls may be cut
off, as long as these are large enough, so what comes of them does not depend on the cut. -/
namespace ImpToC

namespace Parse

variable {α : Type} {levels : Nat} {tokens rest : List Token} {token : Token}

theorem expect_of_not_leads {kind : Token.Kind} (other : ¬Token.Leads kind tokens) :
    expect kind tokens = .error (fault [kind] tokens) := by
  refine oneOf_eq_error.2 ⟨rfl, fun token rest split isKind => other ?_⟩
  exact ⟨token, rest, split, List.mem_singleton.1 isKind⟩

def name : Parse String := do
  return (← expect .ident).text

def assignment (levels : Nat) : Parse Stmt := do
  let target ← name
  let _ ← expect .assign
  let value ← expr levels
  let _ ← expect .semi
  return .assign target value

def afterIf (levels : Nat) : Parse Stmt := do
  let cond ← guard levels
  let body ← statement levels
  if ← skip? .elseWord then
    return .ifElse cond body (← statement levels)
  else
    return .ifThen cond body

def afterWhile (levels : Nat) : Parse Stmt := do
  let cond ← guard levels
  return .loop cond (← statement levels)

def afterPrint (levels : Nat) : Parse Stmt := do
  let _ ← expect .lparen
  let value ← expr levels
  let _ ← expect .rparen
  let _ ← expect .semi
  return .print value

def afterFunction (levels : Nat) : Parse Stmt := do
  let callee ← name
  let params ← parameters
  return .function callee params (← statement levels)

theorem choice_of_eq {yes no : Parse α} {kind : Token.Kind} (same : token.kind = kind) :
    (do if ← skip? kind then yes else no) (token :: rest) = yes rest := by
  have taken : skip? kind (token :: rest) = .ok (true, rest) := skip?_eq_ok.2 ⟨token, rfl, same⟩
  exact bind_of_ok taken

theorem choice_of_ne {yes no : Parse α} {kind : Token.Kind} (other : token.kind ≠ kind) :
    (do if ← skip? kind then yes else no) (token :: rest) = no (token :: rest) := by
  have kept : skip? kind (token :: rest) = .ok (false, token :: rest) :=
    skip?_eq_ok.2 ⟨rfl, mt Token.leads_cons.1 other⟩
  exact bind_of_ok kept

def starts : List Token.Kind := [.ident, .ifWord, .whileWord, .printWord, .functionWord]

theorem statement_of_name (isName : token.kind = .ident) :
    statement (levels + 1) (token :: rest) = assignment levels (token :: rest) := by
  have taken : oneOf starts (token :: rest) = .ok (token, rest) :=
    oneOf_eq_ok.2 ⟨rfl, by simp [starts, isName]⟩
  have named : name (token :: rest) = .ok (token.text, rest) :=
    bind_of_ok (expect_eq_ok.2 ⟨rfl, isName⟩)
  rw [statement]
  refine (bind_of_ok taken).trans ?_
  rw [assignment, bind_of_ok named]
  simp only [isName]

theorem statement_of_word (noName : ¬Token.Leads .ident tokens) :
    statement (levels + 1) tokens = (do
      if ← skip? .ifWord then afterIf levels
      else if ← skip? .whileWord then afterWhile levels
      else if ← skip? .printWord then afterPrint levels
      else if ← skip? .functionWord then afterFunction levels
      else fun left => .error (fault starts left)) tokens := by
  cases tokens with
  | nil => rfl
  | cons word rest =>
    rw [Token.leads_cons] at noName
    rw [statement]
    by_cases isStart : word.kind ∈ starts
    · refine (bind_of_ok (oneOf_eq_ok.2 ⟨rfl, isStart⟩)).trans ?_
      simp only [starts, List.mem_cons, List.not_mem_nil, or_false, noName, false_or] at isStart
      rcases isStart with isIf | isWhile | isPrint | isFunction
      · rw [choice_of_eq isIf]
        simp only [isIf]
        rfl
      · rw [choice_of_ne (by simp [isWhile]), choice_of_eq isWhile]
        simp only [isWhile]
        rfl
      · rw [choice_of_ne (by simp [isPrint]), choice_of_ne (by simp [isPrint]),
          choice_of_eq isPrint]
        simp only [isPrint]
        rfl
      · rw [choice_of_ne (by simp [isFunction]), choice_of_ne (by simp [isFunction]),
          choice_of_ne (by simp [isFunction]), choice_of_eq isFunction]
        simp only [isFunction, afterFunction, name, bind_assoc, pure_bind]
    · have refused : oneOf starts (word :: rest) = .error (fault starts (word :: rest)) :=
        oneOf_eq_error.2 ⟨rfl, by rintro _ _ ⟨⟩; exact isStart⟩
      simp only [starts, List.mem_cons, List.not_mem_nil, or_false, not_or] at isStart
      obtain ⟨-, notIf, notWhile, notPrint, notFunction⟩ := isStart
      rw [choice_of_ne notIf, choice_of_ne notWhile, choice_of_ne notPrint,
        choice_of_ne notFunction]
      exact bind_of_error refused

end Parse

namespace Cursor

open Move

variable {ι α β : Type} {tokens : List Token} {start now : Cursor}

def left (tokens : List Token) (cursor : Cursor) : List Token := tokens.drop cursor.pos

def levels (cursor : Cursor) : Nat := Parse.maxLevels - cursor.depth

/-- The bounds on the cursors that a rule comes to when it is entered at `start`. -/
structure Within (tokens : List Token) (start now : Cursor) : Prop where
  behind : start.pos ≤ now.pos
  inside : now.pos ≤ tokens.length
  deep : start.depth ≤ now.depth
  shallow : now.depth ≤ Parse.maxLevels

/-- Where a rule that was entered at `start` ends. -/
structure Further (start now : Cursor) : Prop where
  pos : start.pos < now.pos
  depth : now.depth = start.depth

theorem Within.trans {last : Cursor} (first : Within tokens start now)
    (second : Within tokens now last) : Within tokens start last :=
  ⟨Nat.le_trans first.behind second.behind, second.inside, Nat.le_trans first.deep second.deep,
    second.shallow⟩

theorem Within.here (within : Within tokens start now) : Within tokens now now :=
  ⟨Nat.le_refl _, within.inside, Nat.le_refl _, within.shallow⟩

theorem Further.trans {last : Cursor} (first : Further start now) (second : Further now last) :
    Further start last :=
  ⟨Nat.lt_trans first.pos second.pos, second.depth.trans first.depth⟩

theorem levels_congr (same : now.depth = start.depth) : now.levels = start.levels := by
  rw [levels, levels, same]

theorem Further.levels (further : Further start now) : now.levels = start.levels :=
  levels_congr further.depth

theorem left_of_some {token : Token} (found : tokens[start.pos]? = some token) :
    start.left tokens = token :: start.next.left tokens := by
  obtain ⟨small, rfl⟩ := List.getElem?_eq_some_iff.1 found
  exact List.drop_eq_getElem_cons small

theorem left_of_none (missing : tokens[start.pos]? = none) : start.left tokens = [] :=
  List.drop_eq_nil_of_le (List.getElem?_eq_none_iff.1 missing)

theorem leads_left {kind : Token.Kind} :
    Token.Leads kind (start.left tokens) ↔ tokens[start.pos]?.map Token.kind = some kind := by
  cases found : tokens[start.pos]? with
  | none => simp [left_of_none found, Token.not_leads_nil]
  | some token => simp [left_of_some found, Token.leads_cons]

theorem further_next : Further start start.next := ⟨Nat.lt_succ_self _, rfl⟩

theorem within_next {token : Token} (ready : Within tokens start start)
    (found : tokens[start.pos]? = some token) : Within tokens start start.next := by
  obtain ⟨small, -⟩ := List.getElem?_eq_some_iff.1 found
  exact ⟨Nat.le_succ _, small, Nat.le_refl _, ready.shallow⟩

/-- What may happen to a cursor at once: a token is read, a level is taken, or levels are given
back. -/
inductive Step : Cursor → Cursor → Prop where
  | read (cursor : Cursor) : Step cursor cursor.next
  | deepen (cursor : Cursor) : Step cursor cursor.deeper
  | lift (cursor : Cursor) {depth : Nat} (lower : depth ≤ cursor.depth) :
    Step cursor { cursor with depth }

/-- A way without gaps over all these cursors. -/
inductive Path : Cursor → List Cursor → Cursor → Prop where
  | stay (cursor : Cursor) : Path cursor [] cursor
  | step {start now last : Cursor} {passed : List Cursor} (first : Step start now)
    (rest : Path now passed last) : Path start (now :: passed) last

theorem Path.append {last : Cursor} {passed others : List Cursor} (first : Path start passed now)
    (second : Path now others last) : Path start (passed ++ others) last := by
  induction first with
  | stay => exact second
  | step first _ ih => exact .step first (ih second)

theorem Path.lift {depth : Nat} {passed : List Cursor} (path : Path start passed now)
    (lower : depth ≤ now.depth) :
    Path start (passed ++ [{ now with depth }]) { now with depth } :=
  path.append (.step (.lift now lower) (.stay _))

/-- The move came back where the rule leads: with its result and in front of the tokens that it
leaves, or with its fault. -/
inductive Lands (tokens : List Token) (rule : Parse α) (start : Cursor)
    (post : α → Cursor → Prop) : Except ParseError α → Cursor → Prop where
  | ok {a : α} {cursor : Cursor} (read : rule (start.left tokens) = .ok (a, cursor.left tokens))
    (holds : post a cursor) : Lands tokens rule start post (.ok a) cursor
  | error {fault : ParseError} {cursor : Cursor}
    (failed : rule (start.left tokens) = .error fault) :
    Lands tokens rule start post (.error fault) cursor

/-- From `start` all the moves that are given enough do the same: they go their way step by step,
keep to the bounds and come back where the rule leads. -/
def Goes (tokens : List Token) (enough : ι → Prop) (move : ι → Move α) (rule : Parse α)
    (start : Cursor) (post : α → Cursor → Prop) : Prop :=
  ∃ result cursor passed,
    (∀ i, enough i → move i start = .back result cursor passed) ∧
    Path start passed cursor ∧
    (∀ now ∈ cursor :: passed, Within tokens start now) ∧
    Lands tokens rule start post result cursor

variable {enough : ι → Prop}

theorem Outcome.after_nil (outcome : Outcome α) : outcome.after [] = outcome := by
  cases outcome <;> rfl

theorem Move.bind_of_ok {move : Move α} {next : α → Move β} {a : α} {passed : List Cursor}
    (done : move start = .back (.ok a) now passed) :
    (move >>= next) start = (next a now).after passed := by
  change Move.bind move next start = _
  rw [Move.bind, done]

theorem Move.bind_of_error {move : Move α} {next : α → Move β} {fault : ParseError}
    {passed : List Cursor} (failed : move start = .back (.error fault) now passed) :
    (move >>= next) start = .back (.error fault) now passed := by
  change Move.bind move next start = _
  rw [Move.bind, failed]

theorem Move.here_bind (next : Cursor → Move α) : (here >>= next) start = next start start := by
  have looked : here start = .back (.ok start) start [] := rfl
  rw [bind_of_ok looked, Outcome.after_nil]

theorem peek?_bind (offset : Nat) (next : Option Token → Move α) :
    (peek? tokens offset >>= next) start = next tokens[start.pos + offset]? start := by
  have looked : peek? tokens offset start = .back (.ok tokens[start.pos + offset]?) start [] := rfl
  rw [bind_of_ok looked, Outcome.after_nil]

namespace Goes

variable {move other : ι → Move α} {next : ι → α → Move β} {rule whole : Parse α}
  {more : α → Parse β} {post middle : α → Cursor → Prop} {last : β → Cursor → Prop}

theorem bind (first : Goes tokens enough move rule start middle)
    (second : ∀ a now, Within tokens start now → middle a now →
      Goes tokens enough (fun i => next i a) (more a) now last) :
    Goes tokens enough (fun i => move i >>= next i) (rule >>= more) start last := by
  obtain ⟨result, cursor, passed, same, path, within, lands⟩ := first
  cases lands with
  | error failed =>
    exact ⟨_, cursor, passed, fun i has => bind_of_error (same i has), path, within,
      .error (Parse.bind_of_error failed)⟩
  | ok read holds =>
    have reached := within cursor List.mem_cons_self
    obtain ⟨result, final, others, again, rest, beyond, lands⟩ := second _ cursor reached holds
    refine ⟨result, final, passed ++ others, fun i has => ?_, path.append rest,
      fun now passes => ?_, ?_⟩
    · exact (bind_of_ok (same i has)).trans (congrArg (Outcome.after passed) (again i has))
    · rw [List.mem_cons, List.mem_append] at passes
      rcases passes with rfl | early | late
      · exact reached.trans (beyond _ List.mem_cons_self)
      · exact within now (List.mem_cons_of_mem _ early)
      · exact reached.trans (beyond now (List.mem_cons_of_mem _ late))
    · cases lands with
      | ok done holds => exact .ok ((Parse.bind_of_ok read).trans done) holds
      | error failed => exact .error ((Parse.bind_of_ok read).trans failed)

theorem congr (moves : ∀ i, enough i → move i start = other i start)
    (rules : whole (start.left tokens) = rule (start.left tokens))
    (goes : Goes tokens enough other rule start post) :
    Goes tokens enough move whole start post := by
  obtain ⟨result, cursor, passed, same, path, within, lands⟩ := goes
  refine ⟨result, cursor, passed, fun i has => (moves i has).trans (same i has), path, within, ?_⟩
  cases lands with
  | ok read holds => exact .ok (rules.trans read) holds
  | error failed => exact .error (rules.trans failed)

theorem mono (goes : Goes tokens enough move rule start middle)
    (weaker : ∀ a now, middle a now → post a now) : Goes tokens enough move rule start post := by
  obtain ⟨result, cursor, passed, same, path, within, lands⟩ := goes
  refine ⟨result, cursor, passed, same, path, within, ?_⟩
  cases lands with
  | ok read holds => exact .ok read (weaker _ _ holds)
  | error failed => exact .error failed

theorem of_enough {stricter : ι → Prop} (goes : Goes tokens enough move rule start post)
    (more : ∀ i, stricter i → enough i) : Goes tokens stricter move rule start post := by
  obtain ⟨result, cursor, passed, same, path, within, lands⟩ := goes
  exact ⟨result, cursor, passed, fun i has => same i (more i has), path, within, lands⟩

theorem pure {a : α} (ready : Within tokens start start)
    (reads : rule (start.left tokens) = .ok (a, start.left tokens)) (holds : post a start) :
    Goes tokens enough (fun _ => Pure.pure a) rule start post :=
  ⟨.ok a, start, [], fun _ _ => rfl, .stay start, by simpa using ready, .ok reads holds⟩

theorem fail {fault : ParseError} (ready : Within tokens start start)
    (fails : rule (start.left tokens) = .error fault) :
    Goes tokens enough (fun _ => Move.fail fault) rule start post :=
  ⟨.error fault, start, [], fun _ _ => rfl, .stay start, by simpa using ready, .error fails⟩

theorem peek {offset : Nat} {next : ι → Option Token → Move α}
    (goes : Goes tokens enough (fun i => next i tokens[start.pos + offset]?) rule start post) :
    Goes tokens enough (fun i => peek? tokens offset >>= next i) rule start post :=
  goes.congr (fun i _ => peek?_bind offset (next i)) rfl

end Goes

theorem unexpected_eq (kinds : List Token.Kind) :
    (unexpected tokens kinds : Move α) start =
      .back (.error (Parse.fault kinds (start.left tokens))) start [] := by
  rw [unexpected, peek?_bind, Nat.add_zero]
  cases found : tokens[start.pos]? with
  | none => rw [left_of_none found]; rfl
  | some token => rw [left_of_some found]; rfl

theorem advance_eq : advance start = .back (.ok ()) start.next [start.next] := rfl

section

variable (ready : Within tokens start start)

include ready

theorem goes_unexpected {kinds : List Token.Kind} {rule : Parse α} {post : α → Cursor → Prop}
    (fails : rule (start.left tokens) = .error (Parse.fault kinds (start.left tokens))) :
    Goes tokens enough (fun _ => unexpected tokens kinds) rule start post :=
  (Goes.fail ready fails).congr (fun _ _ => unexpected_eq kinds) rfl

theorem goes_advance {token : Token} {a : α} {rule : Parse α} {post : α → Cursor → Prop}
    (found : tokens[start.pos]? = some token)
    (reads : rule (start.left tokens) = .ok (a, start.next.left tokens))
    (holds : post a start.next) :
    Goes tokens enough (fun _ => advance >>= fun _ => pure a) rule start post := by
  refine ⟨.ok a, start.next, [start.next], fun _ _ => bind_of_ok advance_eq,
    .step (.read start) (.stay _), ?_, .ok reads holds⟩
  simpa using within_next ready found

theorem goes_oneOf (kinds : List Token.Kind) :
    Goes tokens enough (fun _ => oneOf tokens kinds) (Parse.oneOf kinds) start
      fun token now => token.kind ∈ kinds ∧ Further start now := by
  refine Goes.peek ?_
  cases found : tokens[start.pos]? with
  | none =>
    refine goes_unexpected ready ?_
    rw [left_of_none found]
    rfl
  | some token =>
    by_cases isOne : token.kind ∈ kinds
    · simp only [if_pos isOne]
      refine goes_advance ready found ?_ ⟨isOne, further_next⟩
      exact Parse.oneOf_eq_ok.2 ⟨left_of_some found, isOne⟩
    · simp only [if_neg isOne]
      refine goes_unexpected ready (Parse.oneOf_eq_error.2 ⟨rfl, ?_⟩)
      intro head rest same
      rw [left_of_some found] at same
      cases same
      exact isOne

theorem goes_expect (kind : Token.Kind) :
    Goes tokens enough (fun _ => expect tokens kind) (Parse.expect kind) start
      fun _ => Further start :=
  (goes_oneOf ready [kind]).mono fun _ _ holds => holds.2

theorem goes_skip? (kind : Token.Kind) :
    Goes tokens enough (fun _ => skip? tokens kind) (Parse.skip? kind) start
      fun taken now => if taken then Further start now else now = start := by
  refine Goes.peek ?_
  by_cases isKind : tokens[start.pos]?.map Token.kind = some kind
  · simp only [Nat.add_zero, if_pos isKind]
    obtain ⟨token, found, same⟩ := Option.map_eq_some_iff.1 isKind
    have taken : Parse.skip? kind (start.left tokens) = .ok (true, start.next.left tokens) :=
      Parse.skip?_eq_ok.2 ⟨token, left_of_some found, same⟩
    exact goes_advance ready found taken further_next
  · simp only [Nat.add_zero, if_neg isKind]
    exact Goes.pure ready (Parse.skip?_eq_ok.2 ⟨rfl, mt leads_left.1 isKind⟩) rfl

theorem goes_operator? (ofKind? : Token.Kind → Option Operator) :
    Goes tokens enough (fun _ => operator? tokens ofKind?) (Parse.operator? ofKind?) start
      fun op? now => if op?.isSome then Further start now else now = start := by
  refine Goes.peek ?_
  cases isOp : tokens[start.pos]?.bind fun token => ofKind? token.kind with
  | some op =>
    obtain ⟨token, found, same⟩ := Option.bind_eq_some_iff.1 isOp
    exact goes_advance ready found (Parse.operator?_eq_ok.2 ⟨token, left_of_some found, same⟩)
      further_next
  | none =>
    refine Goes.pure ready (Parse.operator?_eq_ok.2 ⟨rfl, ?_⟩) rfl
    intro token rest split
    cases found : tokens[start.pos]? with
    | none => rw [left_of_none found] at split; cases split
    | some head =>
      rw [left_of_some found] at split
      cases split
      rwa [found, Option.bind_some] at isOp

end

theorem goes_choice {kind : Token.Kind} {yes no : ι → Move α} {taken : Nat → Parse α}
    {other : Parse α} (ready : Within tokens start start)
    (goes : ∀ now, Within tokens start now → Further start now →
      Goes tokens enough yes (taken now.levels) now fun _ => Further now)
    (goesOther : Goes tokens enough no other start fun _ => Further start) :
    Goes tokens enough (fun i => do if ← skip? tokens kind then yes i else no i)
      (do if ← Parse.skip? kind then taken start.levels else other) start
      fun _ => Further start := by
  refine (goes_skip? ready kind).bind fun isKind now within moved => ?_
  cases isKind with
  | false =>
    have same : now = start := moved
    exact same ▸ goesOther
  | true =>
    have further : Further start now := moved
    have done := goes now within further
    rw [further.levels] at done
    exact done.mono fun _ _ ends => further.trans ends

theorem deepen_full (full : start.levels = 0) :
    deepen start = .back (.error .nestingTooDeep) start [] := by
  have deepest : Parse.maxLevels ≤ start.depth := Nat.le_of_sub_eq_zero full
  rw [deepen, here_bind, if_pos deepest]
  rfl

section

variable {below : Nat} (free : start.levels = below + 1)

include free

theorem deepen_free : deepen start = .back (.ok ()) start.deeper [start.deeper] := by
  have room : ¬Parse.maxLevels ≤ start.depth := by
    rw [levels] at free
    omega
  rw [deepen, here_bind, if_neg room]
  rfl

theorem levels_deeper : start.deeper.levels = below := by
  rw [levels] at free ⊢
  simp only [deeper]
  omega

theorem within_deeper (ready : Within tokens start start) :
    Within tokens start start.deeper := by
  have room : start.depth < Parse.maxLevels := by
    rw [levels] at free
    omega
  exact ⟨Nat.le_refl _, ready.inside, Nat.le_succ _, room⟩

/-- The level that was taken is there to be given back, whether the move failed or not. -/
theorem nested_eq {move : Move α} {result : Except ParseError α} {passed : List Cursor}
    (done : move start.deeper = .back result now passed) (deep : start.deeper.depth ≤ now.depth) :
    nested move start = .back result { now with depth := now.depth - 1 }
      (start.deeper :: (passed ++ [{ now with depth := now.depth - 1 }])) := by
  have tried : attempt move start.deeper = .back (.ok result) now passed := by
    rw [attempt, done]
  have lifted : lift now = .back (.ok ()) { now with depth := now.depth - 1 }
      [{ now with depth := now.depth - 1 }] := by
    obtain ⟨depth, same⟩ : ∃ depth, now.depth = depth + 1 := ⟨now.depth - 1, by
      simp only [deeper] at deep
      omega⟩
    simp only [lift, same]
    rfl
  rw [nested, bind_of_ok (deepen_free free), bind_of_ok tried, bind_of_ok lifted]
  cases result <;> rfl

end

theorem restoring_of_ok {move : Move α} {a : α} {passed : List Cursor}
    (done : move start = .back (.ok a) now passed) :
    restoring move start = .back (.ok a) { now with depth := start.depth }
      (passed ++ [{ now with depth := start.depth }]) := by
  rw [restoring, here_bind, bind_of_ok done, here_bind]
  rfl

theorem restoring_of_error {move : Move α} {fault : ParseError} {passed : List Cursor}
    (failed : move start = .back (.error fault) now passed) :
    restoring move start = .back (.error fault) now passed := by
  rw [restoring, here_bind, bind_of_error failed]

namespace Goes

variable {below : Nat} {move : ι → Move α} {next : ι → Unit → Move α} {rule : Parse α}
  {post : α → Cursor → Prop} (ready : Within tokens start start)

include ready

theorem deepen_full (full : start.levels = 0) :
    Goes tokens enough (fun i => deepen >>= next i) Parse.tooDeep start post :=
  (Goes.fail ready rfl).congr (fun _ _ => bind_of_error (Cursor.deepen_full full)) rfl

theorem deepen_free (free : start.levels = below + 1)
    (goes : Goes tokens enough (fun i => next i ()) rule start.deeper post) :
    Goes tokens enough (fun i => deepen >>= next i) rule start post := by
  obtain ⟨result, cursor, passed, same, path, within, lands⟩ := goes
  have first := within_deeper free ready
  refine ⟨result, cursor, start.deeper :: passed, fun i has => ?_, .step (.deepen start) path,
    fun now passes => ?_, ?_⟩
  · exact (bind_of_ok (Cursor.deepen_free free)).trans (congrArg (Outcome.after _) (same i has))
  · rw [List.mem_cons, List.mem_cons] at passes
    rcases passes with rfl | rfl | later
    · exact first.trans (within _ List.mem_cons_self)
    · exact first
    · exact first.trans (within now (List.mem_cons_of_mem _ later))
  · cases lands with
    | ok read holds => exact .ok read holds
    | error failed => exact .error failed

theorem nested_free (free : start.levels = below + 1)
    (goes : Goes tokens enough move rule start.deeper fun _ => Further start.deeper) :
    Goes tokens enough (fun i => Move.nested (move i)) rule start fun _ => Further start := by
  obtain ⟨result, cursor, passed, same, path, within, lands⟩ := goes
  have first := within_deeper free ready
  have ends := within cursor List.mem_cons_self
  have above : start.depth + 1 ≤ cursor.depth := ends.deep
  have lifted : Within tokens start { cursor with depth := cursor.depth - 1 } :=
    ⟨ends.behind, ends.inside, Nat.le_sub_of_add_le above,
      Nat.le_trans (Nat.sub_le _ _) ends.shallow⟩
  refine ⟨result, _, _, fun i has => nested_eq free (same i has) ends.deep,
    .step (.deepen start) (path.lift (Nat.sub_le _ _)), fun now passes => ?_, ?_⟩
  · simp only [List.mem_cons, List.mem_append, List.not_mem_nil, or_false] at passes
    rcases passes with rfl | rfl | inside | rfl
    · exact lifted
    · exact first
    · exact first.trans (within now (List.mem_cons_of_mem _ inside))
    · exact lifted
  · cases lands with
    | ok read further =>
      exact .ok read ⟨further.pos, congrArg (· - 1) further.depth⟩
    | error failed => exact .error failed

/-- A rule that takes a level for itself fails if there is none, and goes on in it otherwise. -/
theorem nested {rule : Nat → Parse α} (refuses : rule 0 = Parse.tooDeep)
    (goes : Within tokens start start.deeper →
      Goes tokens enough move (rule (start.deeper.levels + 1)) start.deeper
        fun _ => Further start.deeper) :
    Goes tokens enough (fun i => Move.nested (move i)) (rule start.levels) start
      fun _ => Further start := by
  cases free : start.levels with
  | zero =>
    rw [refuses]
    exact deepen_full ready free
  | succ below =>
    have inner := goes (within_deeper free ready)
    rw [levels_deeper free] at inner
    exact nested_free ready free inner

theorem restoring
    (goes : Goes tokens enough move rule start fun _ now => start.pos < now.pos) :
    Goes tokens enough (fun i => Move.restoring (move i)) rule start fun _ => Further start := by
  obtain ⟨result, cursor, passed, same, path, within, lands⟩ := goes
  cases lands with
  | error failed =>
    exact ⟨_, cursor, passed, fun i has => restoring_of_error (same i has), path, within,
      .error failed⟩
  | ok read further =>
    have ends := within cursor List.mem_cons_self
    have restored : Within tokens start { cursor with depth := start.depth } :=
      ⟨ends.behind, ends.inside, Nat.le_refl _, ready.shallow⟩
    refine ⟨_, _, _, fun i has => restoring_of_ok (same i has), path.lift ends.deep,
      fun now passes => ?_, .ok read ⟨further, rfl⟩⟩
    simp only [List.mem_cons, List.mem_append, List.not_mem_nil, or_false] at passes
    rcases passes with rfl | inside | rfl
    · exact restored
    · exact within now (List.mem_cons_of_mem _ inside)
    · exact restored

end Goes

theorem goes_folds {ofKind? : Token.Kind → Option Operator} {operand : Nat → Parse Expr}
    {tail : Nat → Expr → Parse Expr} (loop : Parse.IsLoop ofKind? operand tail)
    {move : ι → Move Expr}
    (operands : ∀ now, Within tokens start now →
      Goes tokens enough move (operand now.levels) now fun _ => Further now)
    {rounds : ι → Nat} (within : Within tokens start now) (left : Expr)
    (many : ∀ i, enough i → tokens.length - now.pos < rounds i) :
    Goes tokens enough (fun i => folds tokens (move i) ofKind? (rounds i) left)
      (tail now.levels left) now fun _ last => now.pos ≤ last.pos := by
  induction unread : tokens.length - now.pos using Nat.strongRecOn generalizing now left rounds with
  | ind size ih =>
    have again (i : ι) (has : enough i) :
        folds tokens (move i) ofKind? (rounds i) left now =
          folds tokens (move i) ofKind? (rounds i - 1 + 1) left now := by
      have some := many i has
      rw [Nat.sub_add_cancel (by omega)]
    refine Goes.congr again rfl ?_
    rw [loop]
    refine (goes_operator? within.here ofKind?).bind fun op? next reached moved => ?_
    cases op? with
    | none =>
      have same : next = now := moved
      exact same ▸ Goes.pure reached.here rfl (Nat.le_refl _)
    | some op =>
      have further : Further now next := moved
      cases free : now.levels with
      | zero => exact Goes.deepen_full reached.here (further.levels.trans free)
      | succ below =>
        have room : next.levels = below + 1 := further.levels.trans free
        have deep := (within.trans reached).trans (within_deeper room reached.here)
        have right := operands _ deep
        rw [levels_deeper room] at right
        refine Goes.deepen_free reached.here room (right.bind fun value after beyond done => ?_)
        have shorter : tokens.length - after.pos < size := by
          have := beyond.inside
          have : next.pos < after.pos := done.pos
          have := further.pos
          omega
        have fewer (i : ι) (has : enough i) : tokens.length - after.pos < rounds i - 1 := by
          have := many i has
          omega
        have rest := ih _ shorter (deep.trans beyond) (.binary op left value) fewer rfl
        rw [done.levels, levels_deeper room] at rest
        refine rest.mono fun _ last later => ?_
        have : next.pos < after.pos := done.pos
        have := further.pos
        omega

theorem goes_chain {ofKind? : Token.Kind → Option Operator} {operand rule : Nat → Parse Expr}
    {tail : Nat → Expr → Parse Expr} (loop : Parse.IsLoop ofKind? operand tail)
    (splits : rule start.levels = operand start.levels >>= tail start.levels)
    {move : ι → Move Expr} (ready : Within tokens start start)
    (operands : ∀ now, Within tokens start now →
      Goes tokens enough move (operand now.levels) now fun _ => Further now)
    {rounds : ι → Nat} (many : ∀ i, enough i → tokens.length - start.pos < rounds i) :
    Goes tokens enough (fun i => chain tokens (move i) ofKind? (rounds i)) (rule start.levels) start
      fun _ => Further start := by
  refine Goes.restoring ready ?_
  rw [splits]
  refine (operands start ready).bind fun first now within further => ?_
  have fewer (i : ι) (has : enough i) : tokens.length - now.pos < rounds i := by
    have := many i has
    have := further.pos
    omega
  have others := goes_folds loop operands within first fewer
  rw [further.levels] at others
  exact others.mono fun _ last later => Nat.lt_of_lt_of_le further.pos later

/-- The rule for items with commas between them and a closing bracket behind. -/
def IsList (item : Parse α) (list : Parse (List α)) : Prop :=
  list = do
    let first ← item
    let mark ← Parse.oneOf [.comma, .rparen]
    match mark.kind with
    | .comma => return first :: (← list)
    | _ => return [first]

theorem goes_separated {item : Parse α} {list : Parse (List α)} (isList : IsList item list)
    {move : ι → Move α}
    (items : ∀ now, Within tokens start now → now.depth = start.depth →
      Goes tokens enough move item now fun _ => Further now)
    {rounds : ι → Nat} (within : Within tokens start now) (level : now.depth = start.depth)
    (many : ∀ i, enough i → tokens.length - now.pos < rounds i) :
    Goes tokens enough (fun i => separated tokens (move i) (rounds i)) list now
      fun _ => Further now := by
  induction unread : tokens.length - now.pos using Nat.strongRecOn generalizing now rounds with
  | ind size ih =>
    have again (i : ι) (has : enough i) :
        separated tokens (move i) (rounds i) now =
          separated tokens (move i) (rounds i - 1 + 1) now := by
      have some := many i has
      rw [Nat.sub_add_cancel (by omega)]
    refine Goes.congr again rfl ?_
    rw [isList]
    refine (items now within level).bind fun first next reached further => ?_
    refine (goes_oneOf reached.here _).bind fun mark last beyond holds => ?_
    obtain ⟨isMark, moved⟩ := holds
    have reads := further.trans moved
    simp only [List.mem_cons, List.not_mem_nil, or_false] at isMark
    rcases isMark with isComma | isClosing
    · simp only [isComma, reduceCtorEq, if_false]
      have shorter : tokens.length - last.pos < size := by
        have := beyond.inside
        have := reads.pos
        omega
      have fewer (i : ι) (has : enough i) : tokens.length - last.pos < rounds i - 1 := by
        have := many i has
        omega
      have rest := ih _ shorter ((within.trans reached).trans beyond) (reads.depth.trans level)
        fewer rfl
      exact rest.bind fun others final ends done => Goes.pure ends.here rfl (reads.trans done)
    · simp only [isClosing, if_true]
      exact Goes.pure beyond.here rfl reads

section

variable {call : ι → (rule : Rule) → Move rule.Result} {rounds : ι → Nat}

def Served (tokens : List Token) (enough : ι → Prop) (call : ι → (rule : Rule) → Move rule.Result)
    (start : Cursor) : Prop :=
  ∀ rule now, Within tokens start now → Further start now →
    Goes tokens enough (fun i => call i rule) (rule.parse start.levels) now fun _ => Further now

theorem Served.later (served : Served tokens enough call start) (within : Within tokens start now)
    (further : Further start now) : Served tokens enough call now := by
  intro rule last reached moved
  rw [further.levels]
  exact served rule last (within.trans reached) (further.trans moved)

theorem goes_name (ready : Within tokens start start) :
    Goes tokens enough (fun _ => name tokens) Parse.name start fun _ => Further start :=
  (goes_expect ready .ident).bind fun _ _ within further => Goes.pure within.here rfl further

section

variable (ready : Within tokens start start) (served : Served tokens enough call start)

include ready served

theorem goes_factor :
    Goes tokens enough (fun i => factor tokens (call i)) (Parse.factor (start.levels + 1)) start
      fun _ => Further start := by
  rw [Parse.factor]
  refine (goes_oneOf ready _).bind fun token now within holds => ?_
  obtain ⟨isOne, further⟩ := holds
  simp only [List.mem_cons, List.not_mem_nil, or_false] at isOne
  rcases isOne with isNum | isName | isOpening
  · simp only [isNum]
    exact Goes.pure within.here rfl further
  · simp only [isName]
    refine (goes_skip? within.here .lparen).bind fun opened last reached moved => ?_
    cases opened with
    | false =>
      have same : last = now := moved
      exact same ▸ Goes.pure within.here rfl further
    | true =>
      have reads : Further start last := further.trans moved
      exact (served .arguments last (within.trans reached) reads).bind fun args final beyond done =>
        Goes.pure beyond.here rfl (reads.trans done)
  · simp only [isOpening]
    refine (served .expr now within further).bind fun inner last reached moved => ?_
    exact (goes_expect reached.here .rparen).bind fun _ final beyond done =>
      Goes.pure beyond.here rfl ((further.trans moved).trans done)

theorem goes_guard :
    Goes tokens enough (fun i => guard tokens (call i)) (Parse.guard start.levels) start
      fun _ => Further start := by
  refine (goes_expect ready .lparen).bind fun _ now within further => ?_
  refine (served .condition now within further).bind fun cond last reached moved => ?_
  exact (goes_expect reached.here .rparen).bind fun _ final beyond done =>
    Goes.pure beyond.here rfl ((further.trans moved).trans done)

theorem goes_assignment :
    Goes tokens enough (fun i => assignment tokens (call i)) (Parse.assignment start.levels) start
      fun _ => Further start := by
  refine (goes_name ready).bind fun target now within further => ?_
  refine (goes_expect within.here .assign).bind fun _ mark reached moved => ?_
  have reads := further.trans moved
  refine (served .expr mark (within.trans reached) reads).bind fun value last beyond done => ?_
  exact (goes_expect beyond.here .semi).bind fun _ final ends ended =>
    Goes.pure ends.here rfl ((reads.trans done).trans ended)

theorem goes_branch :
    Goes tokens enough (fun i => branch tokens (call i)) (Parse.afterIf start.levels) start
      fun _ => Further start := by
  refine (goes_guard ready served).bind fun cond now within further => ?_
  refine (served .statement now within further).bind fun body last reached moved => ?_
  have inside := within.trans reached
  have reads := further.trans moved
  refine (goes_skip? reached.here .elseWord).bind fun otherwise next beyond taken => ?_
  cases otherwise with
  | false =>
    have same : next = last := taken
    exact same ▸ Goes.pure reached.here rfl reads
  | true =>
    have later : Further start next := reads.trans taken
    exact (served .statement next (inside.trans beyond) later).bind fun other final ends done =>
      Goes.pure ends.here rfl (later.trans done)

theorem goes_loop :
    Goes tokens enough (fun i => loop tokens (call i)) (Parse.afterWhile start.levels) start
      fun _ => Further start := by
  refine (goes_guard ready served).bind fun cond now within further => ?_
  exact (served .statement now within further).bind fun body last reached moved =>
    Goes.pure reached.here rfl (further.trans moved)

theorem goes_print :
    Goes tokens enough (fun i => print tokens (call i)) (Parse.afterPrint start.levels) start
      fun _ => Further start := by
  refine (goes_expect ready .lparen).bind fun _ now within further => ?_
  refine (served .expr now within further).bind fun value last reached moved => ?_
  refine (goes_expect reached.here .rparen).bind fun _ closing beyond done => ?_
  exact (goes_expect beyond.here .semi).bind fun _ final ends ended =>
    Goes.pure ends.here rfl (((further.trans moved).trans done).trans ended)

theorem goes_declaration :
    Goes tokens enough (fun i => declaration tokens (call i)) (Parse.afterFunction start.levels)
      start fun _ => Further start := by
  refine (goes_name ready).bind fun callee now within further => ?_
  refine (served .parameters now within further).bind fun params last reached moved => ?_
  have reads := further.trans moved
  exact (served .statement last (within.trans reached) reads).bind fun body final beyond done =>
    Goes.pure beyond.here rfl (reads.trans done)

theorem goes_statement :
    Goes tokens enough (fun i => statement tokens (call i)) (Parse.statement (start.levels + 1))
      start fun _ => Further start := by
  refine Goes.peek (Goes.peek ?_)
  by_cases isName : tokens[start.pos]?.map Token.kind = some .ident
  · simp only [Nat.add_zero, if_pos isName]
    obtain ⟨token, found, same⟩ := Option.map_eq_some_iff.1 isName
    refine Goes.congr (fun _ _ => rfl) (left_of_some found ▸ Parse.statement_of_name same) ?_
    have named : Parse.name (start.left tokens) = .ok (token.text, start.next.left tokens) :=
      Parse.bind_of_ok (Parse.expect_eq_ok.2 ⟨left_of_some found, same⟩)
    by_cases isAssign : tokens[start.pos + 1]?.map Token.kind = some .assign
    · simp only [isAssign]
      exact goes_assignment ready served
    · have refused : Parse.assignment start.levels (start.left tokens) =
          .error (Parse.fault [.assign] (start.next.left tokens)) := by
        exact (Parse.bind_of_ok named).trans
          (Parse.bind_of_error (Parse.expect_of_not_leads (mt leads_left.1 isAssign)))
      cases second : tokens[start.pos + 1]? with
      | none =>
        have ends : start.next.left tokens = [] := left_of_none second
        rw [ends] at refused
        exact Goes.fail ready refused
      | some mark =>
        have goesOn : start.next.left tokens = mark :: start.next.next.left tokens :=
          left_of_some second
        rw [goesOn] at refused
        simp only [Option.map_some]
        split
        · rename_i same
          exact absurd (second ▸ same) isAssign
        · rename_i same
          cases same
          exact Goes.fail ready refused
        · rename_i same
          cases same
  · simp only [Nat.add_zero, if_neg isName]
    refine Goes.congr (fun _ _ => rfl) (Parse.statement_of_word (mt leads_left.1 isName)) ?_
    refine goes_choice ready (fun now within further => ?_) ?_
    · exact goes_branch within.here (served.later within further)
    refine goes_choice ready (fun now within further => ?_) ?_
    · exact goes_loop within.here (served.later within further)
    refine goes_choice ready (fun now within further => ?_) ?_
    · exact goes_print within.here (served.later within further)
    refine goes_choice ready (fun now within further => ?_) ?_
    · exact goes_declaration within.here (served.later within further)
    exact goes_unexpected ready rfl

end

section

variable (ready : Within tokens start start)
  (sums : ∀ now, Within tokens start now → now.depth = start.depth →
    Goes tokens enough (fun i => call i .expr) (Parse.expr start.levels) now fun _ => Further now)

include ready sums

theorem goes_condition :
    Goes tokens enough (fun i => condition tokens (call i)) (Parse.condition start.levels) start
      fun _ => Further start := by
  refine (sums start ready rfl).bind fun left now within further => ?_
  refine (goes_operator? within.here Parse.relational?).bind fun op? last reached moved => ?_
  cases op? with
  | none =>
    have same : last = now := moved
    exact same ▸ Goes.pure within.here rfl further
  | some op =>
    have reads : Further start last := further.trans moved
    exact (sums last (within.trans reached) reads.depth).bind fun right final beyond done =>
      Goes.pure beyond.here rfl (reads.trans done)

theorem goes_arguments (many : ∀ i, enough i → tokens.length - start.pos < rounds i) :
    Goes tokens enough (fun i => arguments tokens (call i) (rounds i))
      (Parse.arguments start.levels) start fun _ => Further start := by
  rw [Parse.arguments]
  refine (goes_skip? ready .rparen).bind fun closed now within moved => ?_
  cases closed with
  | true => exact Goes.pure within.here rfl moved
  | false =>
    have same : now = start := moved
    subst same
    have isList : IsList (Parse.expr now.levels) (Parse.argumentList now.levels) :=
      Parse.argumentList_eq
    exact (goes_separated isList sums ready rfl many).congr (fun _ _ => rfl) rfl

end

theorem isList_parametersFrom : IsList Parse.name Parse.parametersFrom := by
  refine Parse.parametersFrom_eq.trans (Eq.symm ?_)
  exact bind_assoc _ _ _

theorem goes_parameters (ready : Within tokens start start)
    (many : ∀ i, enough i → tokens.length - start.pos < rounds i) :
    Goes tokens enough (fun i => parameters tokens (rounds i)) Parse.parameters start
      fun _ => Further start := by
  refine (goes_expect ready .lparen).bind fun _ now within further => ?_
  refine (goes_skip? within.here .rparen).bind fun closed last reached moved => ?_
  cases closed with
  | true => exact Goes.pure reached.here rfl (further.trans moved)
  | false =>
    have same : last = now := moved
    subst same
    have got : (get : Parse (List Token)) (last.left tokens) =
        .ok (last.left tokens, last.left tokens) := rfl
    refine Goes.peek ?_
    by_cases isName : tokens[last.pos]?.map Token.kind = some .ident
    · simp only [Nat.add_zero, if_pos isName]
      obtain ⟨token, found, same⟩ := Option.map_eq_some_iff.1 isName
      have fewer (i : ι) (has : enough i) : tokens.length - last.pos < rounds i := by
        have := many i has
        have := further.pos
        omega
      have names : Goes tokens enough (fun i => separated tokens (name tokens) (rounds i))
          Parse.parametersFrom last fun _ => Further last :=
        goes_separated isList_parametersFrom (fun now inside _ => goes_name inside.here)
          within.here rfl fewer
      refine (names.mono fun _ _ done => further.trans done).congr (fun _ _ => rfl) ?_
      refine (Parse.bind_of_ok got).trans ?_
      rw [left_of_some found]
      simp only [if_pos same]
    · simp only [Nat.add_zero, if_neg isName]
      refine goes_unexpected within.here ((Parse.bind_of_ok got).trans ?_)
      cases found : tokens[last.pos]? with
      | none => rw [left_of_none found]; rfl
      | some token =>
        have other : token.kind ≠ .ident := by simpa [found] using isName
        rw [left_of_some found]
        simp only [if_neg other]
        rfl

end

/-- How deep the calls of a rule nest before it reads a token. -/
def Rule.rank : Rule → Nat
  | statement => 1
  | factor => 1
  | term => 2
  | parameters => 2
  | expr => 3
  | condition => 4
  | arguments => 4

theorem Rule.rank_pos (rule : Rule) : 0 < rule.rank := by cases rule <;> decide

theorem Rule.rank_le (rule : Rule) : rule.rank ≤ 4 := by cases rule <;> decide

theorem goes_read (rule : Rule) (ready : Within tokens start start) :
    Goes tokens (fun fuel => 4 * (tokens.length - start.pos) + rule.rank ≤ fuel)
      (fun fuel => rule.read tokens fuel) (rule.parse start.levels) start
      fun _ => Further start := by
  induction need : 4 * (tokens.length - start.pos) + rule.rank using Nat.strongRecOn
    generalizing rule start with
  | ind size ih =>
    have positive := rule.rank_pos
    -- A rule is called further on, or in the same place if it is nearer to reading a token.
    have called (inner : Rule) (now : Cursor) (within : Within tokens start now)
        (nearer : start.pos < now.pos ∨ inner.rank < rule.rank) :
        Goes tokens (fun fuel => size ≤ fuel + 1) (fun fuel => inner.read tokens fuel)
          (inner.parse now.levels) now fun _ => Further now := by
      have less : 4 * (tokens.length - now.pos) + inner.rank < size := by
        have := inner.rank_le
        have := within.inside
        have := within.behind
        omega
      exact (ih _ less inner within.here rfl).of_enough fun fuel has => by omega
    have served (deep : Within tokens start start.deeper) :
        Served tokens (fun fuel => size ≤ fuel + 1) (fun fuel inner => inner.read tokens fuel)
          start.deeper := by
      intro inner now within further
      have goes := called inner now (deep.trans within) (.inl further.pos)
      rwa [further.levels] at goes
    have sums (above : Rule.expr.rank < rule.rank) (now : Cursor) (within : Within tokens start now)
        (level : now.depth = start.depth) :
        Goes tokens (fun fuel => size ≤ fuel + 1) (fun fuel => Rule.expr.read tokens fuel)
          (Parse.expr start.levels) now fun _ => Further now := by
      have goes := called .expr now within (.inr above)
      rwa [levels_congr level] at goes
    have many (loops : 1 < rule.rank) (fuel : Nat) (has : size ≤ fuel + 1) :
        tokens.length - start.pos < fuel := by omega
    have body : Goes tokens (fun fuel => size ≤ fuel + 1)
        (fun fuel => rule.body tokens (fun inner => inner.read tokens fuel) fuel)
        (rule.parse start.levels) start fun _ => Further start := by
      cases rule with
      | statement =>
        exact Goes.nested ready rfl fun deep => goes_statement deep.here (served deep)
      | factor =>
        exact Goes.nested ready (Parse.factor.eq_def 0) fun deep =>
          goes_factor deep.here (served deep)
      | term =>
        exact goes_chain Parse.isLoop_termTail (Parse.term.eq_def _) ready
          (fun now within => called .factor now within (.inr (by decide))) (many (by decide))
      | expr =>
        exact goes_chain Parse.isLoop_exprTail (Parse.expr.eq_def _) ready
          (fun now within => called .term now within (.inr (by decide))) (many (by decide))
      | condition => exact goes_condition ready (sums (by decide))
      | arguments => exact goes_arguments ready (sums (by decide)) (many (by decide))
      | parameters => exact goes_parameters ready (many (by decide))
    obtain ⟨result, cursor, passed, same, path, within, lands⟩ := body
    refine ⟨result, cursor, passed, fun fuel has => ?_, path, within, lands⟩
    obtain ⟨less, rfl⟩ : ∃ less, fuel = less + 1 := ⟨fuel - 1, by omega⟩
    exact same less has

/-- Every rule keeps its cursor in order, wherever it is entered among the tokens and however many
levels are taken then. It comes back once calls may nest four deep for every token left, and never
gives back a level that was not taken. It comes back with what it gives for the tokens and the
levels that are left: with a result, further on, not behind the last token and at the level it was
entered at; or with a fault, and no less deep. Of all the cursors it goes over on its way, step by
step, none is in front of the one it was entered at or behind the last token, none is less deep,
and none is below the deepest level. -/
theorem Rule.read_disciplined (rule : Rule) (tokens : List Token) (start : Cursor)
    (inside : start.pos ≤ tokens.length) (shallow : start.depth ≤ Parse.maxLevels) :
    ∃ result cursor passed,
      (∀ fuel, 4 * (tokens.length - start.pos) + 4 ≤ fuel →
        rule.read tokens fuel start = .back result cursor passed) ∧
      (match result with
        | .ok a =>
          rule.parse start.levels (start.left tokens) = .ok (a, cursor.left tokens) ∧
          start.pos < cursor.pos ∧ cursor.pos ≤ tokens.length ∧ cursor.depth = start.depth
        | .error fault =>
          rule.parse start.levels (start.left tokens) = .error fault ∧
          start.depth ≤ cursor.depth) ∧
      Path start passed cursor ∧
      ∀ now ∈ passed, Within tokens start now := by
  have ready : Within tokens start start := ⟨Nat.le_refl _, inside, Nat.le_refl _, shallow⟩
  obtain ⟨result, cursor, passed, same, path, within, lands⟩ := goes_read rule ready
  have ends := within cursor List.mem_cons_self
  refine ⟨result, cursor, passed, fun fuel has => ?_, ?_, path,
    fun now passes => within now (List.mem_cons_of_mem _ passes)⟩
  · have := rule.rank_le
    exact same fuel (by omega)
  · cases lands with
    | ok read further => exact ⟨read, further.pos, ends.inside, further.depth⟩
    | error failed => exact ⟨failed, ends.deep⟩

/-- Of `1 + 2 + 3` two levels above the deepest one the third factor has no level left. The chain
leaves the two levels taken that its operators took. -/
theorem Rule.read_disciplined_chain :
    let tokens : List Token := [⟨.num, some "1"⟩, ⟨.arith .add, none⟩, ⟨.num, some "2"⟩,
      ⟨.arith .add, none⟩, ⟨.num, some "3"⟩]
    let start : Cursor := ⟨0, 510⟩
    start.pos ≤ tokens.length ∧ start.depth ≤ Parse.maxLevels ∧
      Parse.expr 2 tokens = .error .nestingTooDeep ∧
      ∃ passed,
        (∀ fuel, 24 ≤ fuel →
          Rule.expr.read tokens fuel start = .back (.error .nestingTooDeep) ⟨4, 512⟩ passed) ∧
        Path start passed ⟨4, 512⟩ ∧ ∀ now ∈ passed, Within tokens start now := by
  intro tokens start
  have inside : start.pos ≤ tokens.length := by decide
  have shallow : start.depth ≤ Parse.maxLevels := by decide
  obtain ⟨result, cursor, passed, same, ends, path, within⟩ :=
    Rule.expr.read_disciplined tokens start inside shallow
  obtain ⟨other, run⟩ : ∃ passed,
      Rule.expr.read tokens 24 start = .back (.error .nestingTooDeep) ⟨4, 512⟩ passed := ⟨_, rfl⟩
  obtain ⟨rfl, rfl, -⟩ := Outcome.back.inj ((same 24 (Nat.le_refl _)).symm.trans run)
  exact ⟨inside, shallow, ends.1, passed, same, path, within⟩

end Cursor

end ImpToC
