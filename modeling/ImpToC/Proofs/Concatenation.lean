import ImpToC.Proofs.RoundTrip

/-! Programs one behind the other. The parser begins every statement of a program with all its
levels, and behind the last one it looks for nothing but an `else`, with which no program begins.
So what is a program by itself is the same part of a longer one, and a program is too deep only
if one of its statements is. -/
namespace ImpToC.Program

theorem map_toTree_eq_ok {ε : Type} {answer : Except ε Program} {nodes : List Tree} :
    answer.map toTree = .ok (.program nodes) ↔
      ∃ stmts, answer = .ok ⟨stmts⟩ ∧ stmts.map Stmt.toTree = nodes := by
  cases answer with
  | error fault => simp [Except.map]
  | ok program =>
    obtain ⟨stmts⟩ := program
    simp [Except.map, toTree, Tree.program]

theorem ofTokens_append {front back : List Token} {first second : List Stmt}
    (readFront : ofTokens front = .ok ⟨first⟩) (readBack : ofTokens back = .ok ⟨second⟩) :
    ofTokens (front ++ back) = .ok ⟨first ++ second⟩ := by
  rw [ofTokens_eq_ok] at readFront readBack ⊢
  rw [Parse.statements_append readFront (Parse.not_leads_else_of_statements readBack), readBack]
  rfl

theorem toTree_ofTokens_append {front back : List Token} {first second : List Tree}
    (readFront : (ofTokens front).map toTree = .ok (.program first))
    (readBack : (ofTokens back).map toTree = .ok (.program second)) :
    (ofTokens (front ++ back)).map toTree = .ok (.program (first ++ second)) := by
  obtain ⟨stmts, isFront, rfl⟩ := map_toTree_eq_ok.1 readFront
  obtain ⟨others, isBack, rfl⟩ := map_toTree_eq_ok.1 readBack
  exact map_toTree_eq_ok.2 ⟨stmts ++ others, ofTokens_append isFront isBack, List.map_append⟩

theorem toTree_ofSource_append {front blank back : String} {first second : List Tree}
    (nonempty : blank ≠ "") (skipped : ∀ c ∈ blank.toList, c ∈ Token.blanks)
    (readFront : (ofSource front).map toTree = .ok (.program first))
    (readBack : (ofSource back).map toTree = .ok (.program second)) :
    (ofSource (front ++ blank ++ back)).map toTree = .ok (.program (first ++ second)) := by
  obtain ⟨stmts, isFront, rfl⟩ := map_toTree_eq_ok.1 readFront
  obtain ⟨others, isBack, rfl⟩ := map_toTree_eq_ok.1 readBack
  obtain ⟨tokens, scannedFront, parsedFront⟩ := ofSource_eq_ok.1 isFront
  obtain ⟨more, scannedBack, parsedBack⟩ := ofSource_eq_ok.1 isBack
  have scanned : Token.ofSource (front ++ blank ++ back) = .ok (tokens ++ more) := by
    rw [Token.ofSource_append_blanks nonempty skipped, scannedFront, scannedBack]
    rfl
  exact map_toTree_eq_ok.2 ⟨stmts ++ others,
    ofSource_eq_ok.2 ⟨tokens ++ more, scanned, ofTokens_append parsedFront parsedBack⟩,
    List.map_append⟩

theorem toTree_ofTokens_flatMap {pieces : List (List Token × List Tree)}
    (each : ∀ piece ∈ pieces, (ofTokens piece.1).map toTree = .ok (.program piece.2)) :
    (ofTokens (pieces.flatMap Prod.fst)).map toTree =
      .ok (.program (pieces.flatMap Prod.snd)) := by
  induction pieces with
  | nil =>
    have read : Parse.statements [] = .ok [] := by rw [Parse.statements]
    exact map_toTree_eq_ok.2 ⟨[], ofTokens_eq_ok.2 read, rfl⟩
  | cons piece pieces ih =>
    obtain ⟨first, others⟩ := List.forall_mem_cons.1 each
    rw [List.flatMap_cons, List.flatMap_cons]
    exact toTree_ofTokens_append first (ih others)

/-- Programs one behind the other are one program, whose tree has the children of the first and
then those of the second. It is so for tokens; for source texts, if there are blanks between
them; and for any number of programs. So no number of statements nests too deeply, if each of
them can be read alone. -/
theorem programs_concatenate :
    (∀ front back first second,
        (ofTokens front).map toTree = .ok (.program first) →
        (ofTokens back).map toTree = .ok (.program second) →
        (ofTokens (front ++ back)).map toTree = .ok (.program (first ++ second))) ∧
      (∀ front blank back first second,
        blank ≠ "" → (∀ c ∈ blank.toList, c ∈ Token.blanks) →
        (ofSource front).map toTree = .ok (.program first) →
        (ofSource back).map toTree = .ok (.program second) →
        (ofSource (front ++ blank ++ back)).map toTree = .ok (.program (first ++ second))) ∧
      ∀ pieces : List (List Token × List Tree),
        (∀ piece ∈ pieces, (ofTokens piece.1).map toTree = .ok (.program piece.2)) →
        (ofTokens (pieces.flatMap Prod.fst)).map toTree =
            .ok (.program (pieces.flatMap Prod.snd)) ∧
          ofTokens (pieces.flatMap Prod.fst) ≠ .error .nestingTooDeep := by
  refine ⟨fun _ _ _ _ readFront readBack => toTree_ofTokens_append readFront readBack,
    fun _ _ _ _ _ nonempty skipped readFront readBack =>
      toTree_ofSource_append nonempty skipped readFront readBack, fun pieces each => ?_⟩
  have whole := toTree_ofTokens_flatMap each
  refine ⟨whole, fun deep => ?_⟩
  rw [deep] at whole
  cases whole

theorem programs_concatenate_branch :
    let branch : Program := ⟨[.ifThen (.var "x") (.assign "y" (.num "1"))]⟩
    let call : Program := ⟨[.print (.call "f" [.var "y"])]⟩
    let step : Program := ⟨[.assign "x" (.binary (.arith .add) (.var "x") (.num "1"))]⟩
    (ofTokens (branch.toTokens ++ call.toTokens)).map toTree =
        .ok (.program (branch.toTree.children ++ call.toTree.children)) ∧
      (ofSource ("if(x)y=1;" ++ "\x0c" ++ "print(f(y));")).map toTree =
        .ok (.program (branch.toTree.children ++ call.toTree.children)) ∧
      ofTokens ((List.replicate 10000 (step.toTokens, step.toTree.children)).flatMap Prod.fst) ≠
        .error .nestingTooDeep := by
  intro branch call step
  have readBranch : ofTokens branch.toTokens = .ok branch := ofTokens_toTokens rfl rfl (by decide)
  have readCall : ofTokens call.toTokens = .ok call := ofTokens_toTokens rfl rfl (by decide)
  have readStep : ofTokens step.toTokens = .ok step := ofTokens_toTokens rfl rfl (by decide)
  have sourceBranch : ofSource "if(x)y=1;" = .ok branch :=
    ofSource_eq_ok.2 ⟨branch.toTokens, by decide +kernel, readBranch⟩
  have sourceCall : ofSource "print(f(y));" = .ok call :=
    ofSource_eq_ok.2 ⟨call.toTokens, by decide +kernel, readCall⟩
  refine ⟨programs_concatenate.1 _ _ _ _ (by rw [readBranch]; rfl) (by rw [readCall]; rfl),
    programs_concatenate.2.1 _ _ _ _ _ (by decide) (by simp [Token.blanks])
      (by rw [sourceBranch]; rfl) (by rw [sourceCall]; rfl),
    (programs_concatenate.2.2 _ fun piece mem => ?_).2⟩
  rw [List.eq_of_mem_replicate mem, readStep]
  rfl

end ImpToC.Program
