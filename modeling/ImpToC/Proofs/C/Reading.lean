import ImpToC.Proofs.C.Lexemes

/-! A reader of C text. It takes the part of C that legible files are written in, where operators
stand between two operands without operators of their own, so that precedence settles nothing, and
where a file is in the order of its parts: headers, static functions, global variables, prototypes
and functions, of which `main` is the last. What it reads from the text of a legible file is that
file, so the text says everything that the file does. -/
namespace ImpToC.C

open Lexeme

abbrev Reader (σ α : Type) := List σ → Option (α × List σ)

namespace Reader

variable {σ α : Type}

/-- What is behind the given beginning. -/
def expect [DecidableEq σ] : List σ → List σ → Option (List σ)
  | [], rest => some rest
  | _ :: _, [] => none
  | item :: items, first :: rest => if first = item then expect items rest else none

theorem expect_append [DecidableEq σ] (items rest : List σ) :
    expect items (items ++ rest) = some rest := by
  induction items with
  | nil => rfl
  | cons item items ih => rw [List.cons_append, expect, if_pos rfl, ih]

/-- Reads on until the reader fails, at most as often as the number says. -/
def many (reader : Reader σ α) : Nat → List σ → List α × List σ
  | 0, rest => ([], rest)
  | bound + 1, rest =>
    match reader rest with
    | none => ([], rest)
    | some (value, rest) =>
      let (values, rest) := many reader bound rest
      (value :: values, rest)

theorem many_flatMap {β : Type} {reader : Reader σ α} {written : β → List σ} {value : β → α}
    {list : List β} {rest : List σ} {bound : Nat}
    (reads : ∀ b ∈ list, ∀ rest, reader (written b ++ rest) = some (value b, rest))
    (stops : reader rest = none) (enough : list.length ≤ bound) :
    many reader bound (list.flatMap written ++ rest) = (list.map value, rest) := by
  induction list generalizing bound with
  | nil =>
    cases bound with
    | zero => rfl
    | succ bound => rw [List.flatMap_nil, List.nil_append, many, stops, List.map_nil]
  | cons b list ih =>
    obtain ⟨first, others⟩ := List.forall_mem_cons.1 reads
    cases bound with
    | zero => cases enough
    | succ bound =>
      have behind := ih others (Nat.le_of_succ_le_succ enough)
      rw [List.flatMap_cons, List.append_assoc, many, first]
      simp only [behind, List.map_cons]

/-- Reads at least one value; a comma stands between two, and a closing bracket ends them. -/
def separated (reader : Reader Lexeme α) : Nat → Reader Lexeme (List α)
  | 0, _ => none
  | bound + 1, lexemes =>
    match reader lexemes with
    | none => none
    | some (value, rest) =>
      match expect [.mark ","] rest with
      | some rest => (separated reader bound rest).map fun (values, rest) => (value :: values, rest)
      | none => (expect [.mark ")"] rest).map fun rest => ([value], rest)

theorem separated_last {reader : Reader Lexeme α} {lexemes rest : List Lexeme} {value : α}
    (read : reader lexemes = some (value, .mark ")" :: rest)) (bound : Nat) :
    separated reader (bound + 1) lexemes = some ([value], rest) := by
  rw [separated, read]
  rfl

theorem separated_cons {reader : Reader Lexeme α} {lexemes more rest : List Lexeme} {value : α}
    {values : List α} {bound : Nat} (read : reader lexemes = some (value, .mark "," :: more))
    (others : separated reader bound more = some (values, rest)) :
    separated reader (bound + 1) lexemes = some (value :: values, rest) := by
  simp only [separated, read, expect, if_true, others, Option.map_some]

end Reader

open Reader

/-- The expression that a number stands for. The spelling settles the type: a number without
suffix has to fit into an `int` everywhere. -/
def constant? (text : String) : Option Expr :=
  let digits := String.ofList (text.toList.takeWhile Char.isDigit)
  let suffix := text.toList.dropWhile Char.isDigit
  if !Decimal.isCanonical digits then none
  else if suffix = ['L', 'L'] then some (.literal digits)
  else if suffix = [] ∧ Decimal.value digits.toList ≤ maxInt then
    some (.int (Decimal.value digits.toList))
  else none

def readType (lexemes : List Lexeme) : Option (Ty × List Lexeme) :=
  [Ty.int, .longLong, .unsignedLongLong].findSome? fun ty =>
    (expect ty.lexemes lexemes).map fun rest => (ty, rest)

def operators : List Operator :=
  [.arith .add, .arith .sub, .arith .mul, .arith .div, .rel .eq, .rel .ne, .rel .lt, .rel .le,
    .rel .gt, .rel .ge]

def operator? (text : String) : Option Operator := operators.find? fun op => symbol op == text

/-- One operand, or two with an operator between them. -/
def readTerm (operand : Reader Lexeme Expr) : Reader Lexeme Expr := fun lexemes =>
  match operand lexemes with
  | some (left, .mark text :: rest) =>
    match operator? text with
    | some op => (operand rest).map fun (right, rest) => (.binary op left right, rest)
    | none => some (left, .mark text :: rest)
  | other => other

/-- One term, or two with `&&` between them. -/
def readExpr (operand : Reader Lexeme Expr) : Reader Lexeme Expr := fun lexemes =>
  match readTerm operand lexemes with
  | some (left, .mark text :: rest) =>
    if text = "&&" then (readTerm operand rest).map fun (right, rest) => (.both left right, rest)
    else some (left, .mark text :: rest)
  | other => other

def readOperandBy (inner : Reader Lexeme Expr) : Reader Lexeme Expr
  | .number text :: rest => (constant? text).map fun value => (value, rest)
  | .quoted content :: rest => some (.text content, rest)
  | .word name :: rest =>
    if !isIdentifier name then none
    else
      match expect [.mark "("] rest with
      | none => some (.ident name, rest)
      | some rest =>
        match expect [.mark ")"] rest with
        | some rest => some (.call name [], rest)
        | none =>
          (separated (readExpr inner) rest.length rest).map fun (args, rest) =>
            (.call name args, rest)
  | .mark text :: rest =>
    if text = "-" then
      match rest with
      | .number text :: rest =>
        match constant? text with
        | some (.int value) => some (.neg (.int value), rest)
        | _ => none
      | _ => none
    else if text = "(" then
      match readType rest with
      | some (ty, rest) => do
        let rest ← expect [.mark ")"] rest
        let (value, rest) ← inner rest
        some (.cast ty value, rest)
      | none => do
        let (value, rest) ← readExpr inner rest
        let rest ← expect [.mark ")"] rest
        some (.paren value, rest)
    else none
  | [] => none

/-- An operand with less than the given number of operands inside one another. -/
def readOperand : Nat → Reader Lexeme Expr
  | 0 => fun _ => none
  | depth + 1 => readOperandBy (readOperand depth)

theorem constant?_toString {value : Nat} (fits : value ≤ maxInt) :
    constant? (toString value) = some (.int value) := by
  have digits : ∀ char ∈ (toString value).toList, char.isDigit :=
    fun char mem => Decimal.isDigit_of_mem_toString mem
  have canonical : Decimal.isCanonical (toString value) :=
    Decimal.isCanonical_iff.2 ⟨value, Nat.le_trans fits (by decide), rfl⟩
  have ends : ∀ char ∈ ([] : List Char).head?, ¬char.isDigit := by rintro _ ⟨⟩
  have front := Token.takeWhile_run digits ends
  have back := Token.dropWhile_run digits ends
  rw [List.append_nil] at front back
  rw [constant?, front, back, String.ofList_toList, canonical, Decimal.value_toString]
  simp [fits]

theorem constant?_literal {digits : String} (canonical : Decimal.isCanonical digits) :
    constant? (digits ++ "LL") = some (.literal digits) := by
  have isDigits : ∀ char ∈ digits.toList, char.isDigit := by
    obtain ⟨value, -, rfl⟩ := Decimal.isCanonical_iff.1 canonical
    exact fun char mem => Decimal.isDigit_of_mem_toString mem
  have suffix : ("LL" : String).toList = ['L', 'L'] := rfl
  have ends : ∀ char ∈ ['L', 'L'].head?, ¬char.isDigit := by
    rintro _ ⟨⟩
    decide
  rw [constant?, String.toList_append, suffix, Token.takeWhile_run isDigits ends,
    Token.dropWhile_run isDigits ends, String.ofList_toList, canonical]
  rfl

theorem readType_lexemes (ty : Ty) (rest : List Lexeme) :
    readType (ty.lexemes ++ rest) = some (ty, rest) := by
  cases ty <;> rfl

theorem operator?_symbol (op : Operator) : operator? (symbol op) = some op := by
  cases op with
  | arith op => cases op <;> rfl
  | rel op => cases op <;> rfl

def starts : Lexeme → Bool
  | .word name => isIdentifier name
  | .mark text => text == "(" || text == "-"
  | _ => true

theorem Expr.lexemes_eq_cons {expr : Expr} (legible : expr.isLegible) :
    ∃ first more, expr.lexemes = first :: more ∧ starts first := by
  match expr with
  | .literal digits => exact ⟨_, _, by rw [Expr.lexemes], rfl⟩
  | .int value => exact ⟨_, _, by rw [Expr.lexemes], rfl⟩
  | .text content => exact ⟨_, _, by rw [Expr.lexemes], rfl⟩
  | .ident name =>
    rw [Expr.isLegible] at legible
    exact ⟨.word name, _, by rw [Expr.lexemes], legible⟩
  | .call callee args =>
    rw [Expr.isLegible, Bool.and_eq_true] at legible
    exact ⟨.word callee, _, by rw [Expr.lexemes]; rfl, legible.1⟩
  | .binary op left right =>
    simp only [Expr.isLegible, Bool.and_eq_true] at legible
    obtain ⟨first, more, same, isStart⟩ := Expr.lexemes_eq_cons legible.1.1.1
    exact ⟨first, _, by rw [Expr.lexemes, same]; rfl, isStart⟩
  | .both left right =>
    simp only [Expr.isLegible, Bool.and_eq_true] at legible
    obtain ⟨first, more, same, isStart⟩ := Expr.lexemes_eq_cons legible.1.1.1
    exact ⟨first, _, by rw [Expr.lexemes, same]; rfl, isStart⟩
  | .neg inner => exact ⟨_, _, by rw [Expr.lexemes]; rfl, rfl⟩
  | .cast ty inner => exact ⟨_, _, by rw [Expr.lexemes]; rfl, rfl⟩
  | .paren inner => exact ⟨_, _, by rw [Expr.lexemes]; rfl, rfl⟩

theorem readType_eq_none {first : Lexeme} {rest : List Lexeme} (isStart : starts first) :
    readType (first :: rest) = none := by
  have other (ty : Ty) : expect ty.lexemes (first :: rest) = none := by
    have keyword : ∃ word more, ty.lexemes = .word word :: more ∧ isIdentifier word = false := by
      cases ty <;> exact ⟨_, _, rfl, rfl⟩
    obtain ⟨word, more, same, notName⟩ := keyword
    have differs : first ≠ .word word := by
      rintro rfl
      rw [starts, notName] at isStart
      cases isStart
    rw [same, expect, if_neg differs]
  simp [readType, other]

/-- What may stand behind an expression of a rank that is not in brackets. -/
def Ends (rank : Nat) (rest : List Lexeme) : Prop :=
  ∃ text others, rest = .mark text :: others ∧ text ≠ "(" ∧ (1 ≤ rank → operator? text = none) ∧
    (2 ≤ rank → text ≠ "&&")

theorem ends_mark {rank : Nat} {text : String} (rest : List Lexeme)
    (closes : text = ")" ∨ text = "," ∨ text = ";") : Ends rank (.mark text :: rest) := by
  rcases closes with rfl | rfl | rfl <;>
    exact ⟨_, _, rfl, by decide, fun _ => rfl, fun _ => by decide⟩

theorem Ends.mono {low high : Nat} {rest : List Lexeme} (ends : Ends high rest)
    (below : low ≤ high) : Ends low rest := by
  obtain ⟨text, others, same, notCall, notTerm, notBoth⟩ := ends
  exact ⟨text, others, same, notCall, fun above => notTerm (Nat.le_trans above below),
    fun above => notBoth (Nat.le_trans above below)⟩

def readRank (operand : Reader Lexeme Expr) : Nat → Reader Lexeme Expr
  | 0 => operand
  | 1 => readTerm operand
  | _ + 2 => readExpr operand

theorem readTerm_of_operand {operand : Reader Lexeme Expr} {lexemes rest : List Lexeme}
    {expr : Expr} (read : operand lexemes = some (expr, rest)) (ends : Ends 1 rest) :
    readTerm operand lexemes = some (expr, rest) := by
  obtain ⟨text, others, rfl, -, notTerm, -⟩ := ends
  simp only [readTerm, read, notTerm (Nat.le_refl _)]

theorem readExpr_of_term {operand : Reader Lexeme Expr} {lexemes rest : List Lexeme}
    {expr : Expr} (read : readTerm operand lexemes = some (expr, rest)) (ends : Ends 2 rest) :
    readExpr operand lexemes = some (expr, rest) := by
  obtain ⟨text, others, rfl, -, -, notBoth⟩ := ends
  simp only [readExpr, read, if_neg (notBoth (Nat.le_refl _))]

theorem Expr.rank_le (expr : Expr) : expr.rank ≤ 2 := by
  cases expr <;> simp [Expr.rank]

theorem readRank_succ {operand : Reader Lexeme Expr} {lexemes rest : List Lexeme} {expr : Expr}
    {rank : Nat} (read : readRank operand rank lexemes = some (expr, rest))
    (ends : Ends (rank + 1) rest) : readRank operand (rank + 1) lexemes = some (expr, rest) := by
  match rank with
  | 0 => exact readTerm_of_operand read ends
  | 1 => exact readExpr_of_term read ends
  | _ + 2 => exact read

theorem readRank_mono {operand : Reader Lexeme Expr} {lexemes rest : List Lexeme} {expr : Expr}
    {low high : Nat} (read : readRank operand low lexemes = some (expr, rest)) (below : low ≤ high)
    (ends : Ends high rest) : readRank operand high lexemes = some (expr, rest) := by
  induction below with
  | refl => exact read
  | step below ih => exact readRank_succ (ih (ends.mono (Nat.le_succ _))) ends

theorem ends_symbol (op : Operator) (rest : List Lexeme) : Ends 0 (.mark (symbol op) :: rest) := by
  have other : symbol op ≠ "(" := by
    cases op with
    | arith op => cases op <;> decide
    | rel op => cases op <;> decide
  exact ⟨_, _, rfl, other, fun above => absurd above (by decide),
    fun above => absurd above (by decide)⟩

theorem ends_and (rest : List Lexeme) : Ends 1 (.mark "&&" :: rest) :=
  ⟨_, _, rfl, by decide, fun _ => rfl, fun above => absurd above (by decide)⟩

theorem expect_mark_eq_none {text : String} {expr : Expr} (legible : expr.isLegible)
    (other : starts (.mark text) = false) (rest : List Lexeme) :
    expect [.mark text] (expr.lexemes ++ rest) = none := by
  obtain ⟨first, more, same, isStart⟩ := Expr.lexemes_eq_cons legible
  have differs : first ≠ .mark text := by
    rintro rfl
    rw [other] at isStart
    cases isStart
  rw [same, List.cons_append, expect, if_neg differs]

theorem lexemesArgs_cons (arg : Expr) (args : List Expr) :
    ∃ more, Expr.lexemesArgs (arg :: args) = arg.lexemes ++ more := by
  cases args with
  | nil => exact ⟨[], by rw [Expr.lexemesArgs, List.append_nil]⟩
  | cons next args =>
    refine ⟨[.mark ","] ++ Expr.lexemesArgs (next :: args), ?_⟩
    rw [Expr.lexemesArgs, List.append_assoc]
    simp

mutual

theorem Expr.readRank_lexemes {expr : Expr} (legible : expr.isLegible) {rank : Nat}
    (ranked : expr.rank ≤ rank) (depth : Nat) (enough : expr.lexemes.length ≤ depth)
    {rest : List Lexeme} (behind : Ends rank rest) :
    readRank (readOperand depth) rank (expr.lexemes ++ rest) = some (expr, rest) := by
  -- An expression is read by the reader for its own rank, and so by those above it.
  refine readRank_mono ?_ ranked behind
  have ends := behind.mono ranked
  match expr, depth with
  | .literal digits, depth + 1 =>
    rw [Expr.isLegible] at legible
    rw [Expr.lexemes]
    simp only [Expr.rank, readRank, readOperand, List.singleton_append, readOperandBy,
      constant?_literal legible, Option.map_some]
  | .int value, depth + 1 =>
    rw [Expr.isLegible, decide_eq_true_eq] at legible
    rw [Expr.lexemes]
    simp only [Expr.rank, readRank, readOperand, List.singleton_append, readOperandBy,
      constant?_toString legible, Option.map_some]
  | .text content, depth + 1 =>
    rw [Expr.lexemes]
    rfl
  | .ident name, depth + 1 =>
    rw [Expr.isLegible] at legible
    obtain ⟨text, others, rfl, notCall, -⟩ := ends
    have alone : expect [Lexeme.mark "("] (.mark text :: others) = none := by
      rw [expect, if_neg (by simpa using notCall)]
    rw [Expr.lexemes]
    simp only [Expr.rank, readRank, readOperand, List.singleton_append, readOperandBy, legible,
      Bool.not_true, Bool.false_eq_true, if_false, alone]
  | .call callee args, depth + 1 =>
    rw [Expr.isLegible, Bool.and_eq_true] at legible
    have shape : (Expr.call callee args).lexemes ++ rest =
        .word callee :: .mark "(" :: (Expr.lexemesArgs args ++ .mark ")" :: rest) := by
      rw [Expr.lexemes]
      simp
    rw [shape]
    simp only [Expr.rank, readRank, readOperand, readOperandBy, legible.1, Bool.not_true,
      Bool.false_eq_true, if_false, expect, if_true]
    cases args with
    | nil => rfl
    | cons arg args =>
      have supplied : arg.isLegible := by
        rw [Expr.allLegible, Bool.and_eq_true] at legible
        exact legible.2.1
      obtain ⟨more, front⟩ := lexemesArgs_cons arg args
      have unclosed : expect [.mark ")"] (Expr.lexemesArgs (arg :: args) ++ .mark ")" :: rest) =
          none := by
        rw [front, List.append_assoc]
        exact expect_mark_eq_none supplied rfl _
      have inside : (Expr.lexemesArgs (arg :: args)).length ≤ depth := by
        simp only [Expr.lexemes, List.length_append, List.length_singleton] at enough
        omega
      have read := Expr.separated_lexemesArgs legible.2 (List.cons_ne_nil arg args) depth
        (Expr.lexemesArgs (arg :: args) ++ Lexeme.mark ")" :: rest).length inside (by simp) rest
      simp only [unclosed, read, Option.map_some]
  | .binary op left right, depth =>
    simp only [Expr.isLegible, Bool.and_eq_true, beq_iff_eq] at legible
    obtain ⟨⟨⟨first, second⟩, firstRank⟩, secondRank⟩ := legible
    simp only [Expr.lexemes, List.length_append, List.length_singleton] at enough
    have left := Expr.readRank_lexemes first (Nat.le_of_eq firstRank) depth (by omega)
      (ends_symbol op (right.lexemes ++ rest))
    have right := Expr.readRank_lexemes second (Nat.le_of_eq secondRank) depth (by omega)
      (ends.mono (Nat.zero_le _))
    rw [Expr.lexemes, List.append_assoc, List.append_assoc, List.singleton_append]
    simp only [Expr.rank, readRank] at left right ⊢
    simp only [readTerm, left, operator?_symbol, right, Option.map_some]
  | .both left right, depth =>
    simp only [Expr.isLegible, Bool.and_eq_true, decide_eq_true_eq] at legible
    obtain ⟨⟨⟨first, second⟩, firstRank⟩, secondRank⟩ := legible
    simp only [Expr.lexemes, List.length_append, List.length_singleton] at enough
    have left := Expr.readRank_lexemes first firstRank depth (by omega)
      (ends_and (right.lexemes ++ rest))
    have right := Expr.readRank_lexemes second secondRank depth (by omega)
      (ends.mono (Nat.le_succ _))
    rw [Expr.lexemes, List.append_assoc, List.append_assoc, List.singleton_append]
    simp only [Expr.rank, readRank] at left right ⊢
    simp only [readExpr, left, right, if_true, Option.map_some]
  | .neg (.int value), depth + 1 =>
    rw [Expr.isLegible, decide_eq_true_eq] at legible
    rw [Expr.lexemes, Expr.lexemes]
    simp only [Expr.rank, readRank, readOperand, List.cons_append, List.nil_append, readOperandBy,
      if_true, constant?_toString legible]
  | .cast ty inner, depth + 1 =>
    rw [Expr.isLegible, Bool.and_eq_true, beq_iff_eq] at legible
    simp only [Expr.lexemes, List.length_append, List.length_singleton] at enough
    have read := Expr.readRank_lexemes legible.1 (Nat.le_of_eq legible.2) depth (by omega)
      ends
    have shape : (Expr.cast ty inner).lexemes ++ rest =
        .mark "(" :: (ty.lexemes ++ .mark ")" :: (inner.lexemes ++ rest)) := by
      rw [Expr.lexemes]
      simp
    have notSign : ("(" : String) ≠ "-" := by decide
    rw [shape]
    simp only [Expr.rank, readRank] at read ⊢
    simp only [readOperand, readOperandBy, if_neg notSign, if_true, readType_lexemes, expect, read,
      Option.bind_eq_bind, Option.bind_some]
  | .paren inner, depth + 1 =>
    rw [Expr.isLegible] at legible
    simp only [Expr.lexemes, List.length_append, List.length_singleton] at enough
    have read := Expr.readRank_lexemes legible inner.rank_le depth (by omega)
      (ends_mark rest (.inl rfl))
    have shape : (Expr.paren inner).lexemes ++ rest =
        .mark "(" :: (inner.lexemes ++ .mark ")" :: rest) := by
      rw [Expr.lexemes]
      simp
    obtain ⟨first, more, same, isStart⟩ := Expr.lexemes_eq_cons legible
    have notType : readType (inner.lexemes ++ .mark ")" :: rest) = none := by
      rw [same]
      exact readType_eq_none isStart
    have notSign : ("(" : String) ≠ "-" := by decide
    rw [shape]
    simp only [Expr.rank, readRank] at read ⊢
    simp only [readOperand, readOperandBy, if_neg notSign, if_true, notType, expect, read,
      Option.bind_eq_bind, Option.bind_some]

theorem Expr.separated_lexemesArgs {args : List Expr} (legible : Expr.allLegible args)
    (some : args ≠ []) (depth bound : Nat) (enough : (Expr.lexemesArgs args).length ≤ depth)
    (bounded : (Expr.lexemesArgs args).length < bound) (rest : List Lexeme) :
    separated (readExpr (readOperand depth)) bound (Expr.lexemesArgs args ++ .mark ")" :: rest) =
      .some (args, rest) := by
  match args, bound with
  | [arg], bound + 1 =>
    rw [Expr.allLegible, Bool.and_eq_true] at legible
    rw [Expr.lexemesArgs] at enough ⊢
    have read := Expr.readRank_lexemes legible.1 arg.rank_le depth enough
      (ends_mark rest (.inl rfl))
    exact separated_last read bound
  | arg :: next :: args, bound + 1 =>
    rw [Expr.allLegible, Bool.and_eq_true] at legible
    have shape : Expr.lexemesArgs (arg :: next :: args) ++ .mark ")" :: rest =
        arg.lexemes ++ .mark "," :: (Expr.lexemesArgs (next :: args) ++ .mark ")" :: rest) := by
      rw [Expr.lexemesArgs] <;> simp
    have length : (Expr.lexemesArgs (arg :: next :: args)).length =
        arg.lexemes.length + 1 + (Expr.lexemesArgs (next :: args)).length := by
      rw [Expr.lexemesArgs]
      · simp only [List.length_append, List.length_singleton]
      all_goals simp
    have read := Expr.readRank_lexemes legible.1 arg.rank_le depth (by omega)
      (ends_mark (Expr.lexemesArgs (next :: args) ++ .mark ")" :: rest) (.inr (.inl rfl)))
    have others := Expr.separated_lexemesArgs legible.2 (List.cons_ne_nil next args)
      depth bound (by omega) (by omega) rest
    rw [shape]
    exact separated_cons read others

end

def readValue (lexemes : List Lexeme) : Option (Expr × List Lexeme) :=
  readExpr (readOperand lexemes.length) lexemes

def readName : Reader Lexeme String
  | .word name :: rest => if isIdentifier name then some (name, rest) else none
  | _ => none

def readAssigned (lexemes : List Lexeme) : Option (Expr × List Lexeme) := do
  let rest ← expect [.mark "="] lexemes
  let (value, rest) ← readValue rest
  let rest ← expect [.mark ";"] rest
  some (value, rest)

def readIfBy (block : Reader Lexeme (List Stmt)) : Reader Lexeme Stmt := fun lexemes =>
  match expect [.mark "!"] lexemes with
  | some rest => do
    let (cond, rest) ← readOperand rest.length rest
    let rest ← expect [.mark ")", .word "break", .mark ";"] rest
    some (.breakUnless cond, rest)
  | none => do
    let (cond, rest) ← readValue lexemes
    let rest ← expect [.mark ")", .mark "\x7b"] rest
    let (body, rest) ← block rest
    match expect [.word "else", .mark "\x7b"] rest with
    | none => some (.ifThen cond body, rest)
    | some rest => (block rest).map fun (other, rest) => (.ifElse cond body other, rest)

/-- A statement that begins with a name: an assignment or a call. -/
def readNamed (name : String) (rest : List Lexeme) : Option (Stmt × List Lexeme) :=
  match readAssigned rest with
  | some (value, rest) => some (.assign name value, rest)
  | none =>
    match readOperand (rest.length + 1) (.word name :: rest) with
    | some (.call callee args, rest) => do
      let rest ← expect [.mark ";"] rest
      some (.expr (.call callee args), rest)
    | _ => none

def readStmtBy (block : Reader Lexeme (List Stmt)) : Reader Lexeme Stmt
  | .word first :: rest =>
    if first = "return" then do
      let (value, rest) ← readValue rest
      let rest ← expect [.mark ";"] rest
      some (.ret value, rest)
    else if first = "if" then do
      let rest ← expect [.mark "("] rest
      readIfBy block rest
    else if first = "for" then do
      let rest ← expect [.mark "(", .mark ";", .mark ";", .mark ")", .mark "\x7b"] rest
      let (body, rest) ← block rest
      some (.forever body, rest)
    else
      match readType (.word first :: rest) with
      | some (ty, rest) => do
        let (name, rest) ← readName rest
        let (value, rest) ← readAssigned rest
        some (.declare ty name value, rest)
      | none => if isIdentifier first then readNamed first rest else none
  | _ => none

/-- The statements of a block up to the brace that closes it, of which the number bounds both how
many there are and how deep they are nested. -/
def readBlock : Nat → Reader Lexeme (List Stmt)
  | 0, _ => none
  | bound + 1, lexemes =>
    match expect [.mark "\x7d"] lexemes with
    | some rest => some ([], rest)
    | none => do
      let (stmt, rest) ← readStmtBy (readBlock bound) lexemes
      let (stmts, rest) ← readBlock bound rest
      some (stmt :: stmts, rest)

theorem readValue_lexemes {value : Expr} (legible : value.isLegible) {text : String}
    (closes : text = ")" ∨ text = "," ∨ text = ";") (rest : List Lexeme) :
    readValue (value.lexemes ++ .mark text :: rest) = some (value, .mark text :: rest) := by
  have enough : value.lexemes.length ≤ (value.lexemes ++ Lexeme.mark text :: rest).length := by simp
  exact Expr.readRank_lexemes legible value.rank_le _ enough (ends_mark rest closes)

theorem readOperand_lexemes {value : Expr} (legible : value.isLegible) (operand : value.rank = 0)
    {text : String} (closes : text = ")" ∨ text = "," ∨ text = ";") (rest : List Lexeme) :
    readOperand (value.lexemes ++ .mark text :: rest).length
      (value.lexemes ++ .mark text :: rest) = some (value, .mark text :: rest) := by
  have enough : value.lexemes.length ≤ (value.lexemes ++ Lexeme.mark text :: rest).length := by simp
  exact Expr.readRank_lexemes legible (Nat.le_of_eq operand) _ enough (ends_mark rest closes)

theorem readName_word {name : String} (isName : isIdentifier name) (rest : List Lexeme) :
    readName (.word name :: rest) = some (name, rest) := by
  rw [readName, if_pos isName]

theorem readAssigned_lexemes {value : Expr} (legible : value.isLegible) (rest : List Lexeme) :
    readAssigned (.mark "=" :: (value.lexemes ++ .mark ";" :: rest)) = some (value, rest) := by
  have read := readValue_lexemes legible (.inr (.inr rfl)) rest
  simp only [readAssigned, expect, if_true, Option.bind_eq_bind, Option.bind_some, read]

theorem ne_of_isIdentifier {name word : String} (isName : isIdentifier name)
    (keyword : isIdentifier word = false) : name ≠ word := by
  rintro rfl
  rw [keyword] at isName
  cases isName

theorem readStmtBy_name {block : Reader Lexeme (List Stmt)} {name : String}
    (isName : isIdentifier name) (rest : List Lexeme) :
    readStmtBy block (.word name :: rest) = readNamed name rest := by
  have noType : readType (.word name :: rest) = none := readType_eq_none isName
  have notReturn : name ≠ "return" := ne_of_isIdentifier isName rfl
  have notIf : name ≠ "if" := ne_of_isIdentifier isName rfl
  have notFor : name ≠ "for" := ne_of_isIdentifier isName rfl
  simp only [readStmtBy, if_neg notReturn, if_neg notIf, if_neg notFor, noType, if_pos isName]

theorem readStmtBy_type {block : Reader Lexeme (List Stmt)} (ty : Ty) {name : String} {value : Expr}
    (isName : isIdentifier name) (legible : value.isLegible) (rest : List Lexeme) :
    readStmtBy block
        (ty.lexemes ++ .word name :: .mark "=" :: (value.lexemes ++ .mark ";" :: rest)) =
      some (.declare ty name value, rest) := by
  have typed := readType_lexemes ty
    (.word name :: .mark "=" :: (value.lexemes ++ .mark ";" :: rest))
  have begins : ∃ word more, ty.lexemes = .word word :: more ∧ word ≠ "return" ∧ word ≠ "if" ∧
      word ≠ "for" := by
    cases ty <;> exact ⟨_, _, rfl, by decide, by decide, by decide⟩
  obtain ⟨word, more, same, notReturn, notIf, notFor⟩ := begins
  rw [same, List.cons_append] at typed ⊢
  simp only [readStmtBy, if_neg notReturn, if_neg notIf, if_neg notFor, typed, readName_word isName,
    readAssigned_lexemes legible, Option.bind_eq_bind, Option.bind_some]

theorem readNamed_call {callee : String} {args : List Expr}
    (legible : (Expr.call callee args).isLegible) (rest : List Lexeme) :
    ∃ more, (Expr.call callee args).lexemes ++ .mark ";" :: rest = .word callee :: more ∧
      readNamed callee more = some (.expr (.call callee args), rest) := by
  have read := readOperand_lexemes legible rfl (.inr (.inr rfl)) rest
  have shape : (Expr.call callee args).lexemes ++ .mark ";" :: rest =
      .word callee :: .mark "(" :: (Expr.lexemesArgs args ++ .mark ")" :: .mark ";" :: rest) := by
    rw [Expr.lexemes]
    simp
  refine ⟨_, shape, ?_⟩
  have notAssigned (more : List Lexeme) : readAssigned (.mark "(" :: more) = none := rfl
  rw [shape, List.length_cons] at read
  simp only [readNamed, notAssigned, read, expect, if_true, Option.bind_eq_bind, Option.bind_some]

theorem readStmtBy_if {block : Reader Lexeme (List Stmt)} (rest : List Lexeme) :
    readStmtBy block (.word "if" :: .mark "(" :: rest) = readIfBy block rest := by
  have notReturn : ("if" : String) ≠ "return" := by decide
  simp only [readStmtBy, if_neg notReturn, if_true, expect, Option.bind_eq_bind, Option.bind_some]

theorem readIfBy_cond {block : Reader Lexeme (List Stmt)} {cond : Expr} (legible : cond.isLegible)
    {lexemes rest : List Lexeme} {body : List Stmt} (read : block lexemes = some (body, rest)) :
    readIfBy block (cond.lexemes ++ .mark ")" :: .mark "\x7b" :: lexemes) =
      match expect [.word "else", .mark "\x7b"] rest with
      | none => some (.ifThen cond body, rest)
      | some rest => (block rest).map fun (other, rest) => (.ifElse cond body other, rest) := by
  have asked := readValue_lexemes legible (.inl rfl) (.mark "\x7b" :: lexemes)
  have unmarked := expect_mark_eq_none legible (show starts (.mark "!") = false from rfl)
    (.mark ")" :: .mark "\x7b" :: lexemes)
  simp only [readIfBy, unmarked, asked, expect, if_true, read, Option.bind_eq_bind,
    Option.bind_some]

theorem Stmt.lexemes_eq_cons {stmt : Stmt} (legible : stmt.isLegible) :
    ∃ word more, stmt.lexemes = .word word :: more ∧ word ≠ "else" := by
  have notElse {name : String} (isName : isIdentifier name) : name ≠ "else" :=
    ne_of_isIdentifier isName rfl
  cases stmt with
  | declare ty name value =>
    rw [Stmt.lexemes]
    cases ty <;> exact ⟨_, _, rfl, by decide⟩
  | assign name value =>
    rw [Stmt.isLegible, Bool.and_eq_true] at legible
    exact ⟨name, _, by rw [Stmt.lexemes]; rfl, notElse legible.1⟩
  | expr value =>
    cases value with
    | call callee args =>
      rw [Stmt.isLegible, Expr.isLegible, Bool.and_eq_true] at legible
      exact ⟨callee, _, by rw [Stmt.lexemes, Expr.lexemes]; rfl, notElse legible.1⟩
    | _ => simp [Stmt.isLegible] at legible
  | ret value => exact ⟨"return", _, by rw [Stmt.lexemes]; rfl, by decide⟩
  | ifThen cond body => exact ⟨"if", _, by rw [Stmt.lexemes]; rfl, by decide⟩
  | ifElse cond body other => exact ⟨"if", _, by rw [Stmt.lexemes]; rfl, by decide⟩
  | forever body => exact ⟨"for", _, by rw [Stmt.lexemes]; rfl, by decide⟩
  | breakUnless cond => exact ⟨"if", _, by rw [Stmt.lexemes]; rfl, by decide⟩

/-- Nothing that stands behind a statement in a block belongs to it. -/
def Unlinked (rest : List Lexeme) : Prop := expect [.word "else", .mark "\x7b"] rest = none

theorem unlinked_lexemesAll {stmts : List Stmt} (legible : Stmt.allLegible stmts)
    (rest : List Lexeme) : Unlinked (Stmt.lexemesAll stmts ++ .mark "\x7d" :: rest) := by
  cases stmts with
  | nil => rfl
  | cons stmt stmts =>
    rw [Stmt.allLegible, Bool.and_eq_true] at legible
    obtain ⟨word, more, same, notElse⟩ := Stmt.lexemes_eq_cons legible.1
    rw [Unlinked, Stmt.lexemesAll, same, List.cons_append, List.cons_append, expect,
      if_neg (by simpa using notElse)]

mutual

theorem Stmt.readStmtBy_lexemes {stmt : Stmt} (legible : stmt.isLegible) (bound : Nat)
    (enough : stmt.lexemes.length ≤ bound) {rest : List Lexeme} (unlinked : Unlinked rest) :
    readStmtBy (readBlock bound) (stmt.lexemes ++ rest) = some (stmt, rest) := by
  match stmt with
  | .declare ty name value =>
    rw [Stmt.isLegible, Bool.and_eq_true] at legible
    rw [Stmt.lexemes]
    simpa using readStmtBy_type ty legible.1 legible.2 rest
  | .assign name value =>
    rw [Stmt.isLegible, Bool.and_eq_true] at legible
    have assigned := readAssigned_lexemes legible.2 rest
    have shape : (Stmt.assign name value).lexemes ++ rest =
        .word name :: .mark "=" :: (value.lexemes ++ .mark ";" :: rest) := by
      rw [Stmt.lexemes]
      simp
    rw [shape, readStmtBy_name legible.1]
    simp only [readNamed, assigned]
  | .expr (.call callee args) =>
    rw [Stmt.isLegible] at legible
    have isName : isIdentifier callee := by
      rw [Expr.isLegible, Bool.and_eq_true] at legible
      exact legible.1
    obtain ⟨more, shape, read⟩ := readNamed_call legible rest
    rw [Stmt.lexemes, List.append_assoc, List.singleton_append, shape, readStmtBy_name isName, read]
  | .ret value =>
    rw [Stmt.isLegible] at legible
    have read := readValue_lexemes legible (.inr (.inr rfl)) rest
    have shape : (Stmt.ret value).lexemes ++ rest =
        .word "return" :: (value.lexemes ++ .mark ";" :: rest) := by
      rw [Stmt.lexemes]
      simp
    rw [shape]
    simp only [readStmtBy, if_true, read, expect, Option.bind_eq_bind, Option.bind_some]
  | .ifThen cond body =>
    rw [Stmt.isLegible, Bool.and_eq_true] at legible
    have shape : (Stmt.ifThen cond body).lexemes ++ rest = .word "if" :: .mark "(" ::
        (cond.lexemes ++ .mark ")" :: .mark "\x7b" ::
          (Stmt.lexemesAll body ++ .mark "\x7d" :: rest)) := by
      rw [Stmt.lexemes]
      simp
    simp only [Stmt.lexemes, List.length_append, List.length_cons, List.length_nil] at enough
    have inside := Stmt.readBlock_lexemes legible.2 bound (by omega) rest
    rw [shape, readStmtBy_if, readIfBy_cond legible.1 inside, unlinked]
  | .ifElse cond body other =>
    simp only [Stmt.isLegible, Bool.and_eq_true] at legible
    have shape : (Stmt.ifElse cond body other).lexemes ++ rest = .word "if" :: .mark "(" ::
        (cond.lexemes ++ .mark ")" :: .mark "\x7b" ::
          (Stmt.lexemesAll body ++ .mark "\x7d" :: .word "else" :: .mark "\x7b" ::
            (Stmt.lexemesAll other ++ .mark "\x7d" :: rest))) := by
      rw [Stmt.lexemes]
      simp
    simp only [Stmt.lexemes, List.length_append, List.length_cons, List.length_nil] at enough
    have inside := Stmt.readBlock_lexemes legible.1.2 bound (by omega)
      (.word "else" :: .mark "\x7b" :: (Stmt.lexemesAll other ++ .mark "\x7d" :: rest))
    have otherwise := Stmt.readBlock_lexemes legible.2 bound (by omega) rest
    rw [shape, readStmtBy_if, readIfBy_cond legible.1.1 inside]
    simp only [expect, if_true, otherwise, Option.map_some]
  | .forever body =>
    rw [Stmt.isLegible] at legible
    have shape : (Stmt.forever body).lexemes ++ rest = .word "for" :: .mark "(" :: .mark ";" ::
        .mark ";" :: .mark ")" :: .mark "\x7b" ::
          (Stmt.lexemesAll body ++ .mark "\x7d" :: rest) := by
      rw [Stmt.lexemes]
      simp
    have notReturn : ("for" : String) ≠ "return" := by decide
    have notIf : ("for" : String) ≠ "if" := by decide
    simp only [Stmt.lexemes, List.length_append, List.length_cons, List.length_nil] at enough
    have inside := Stmt.readBlock_lexemes legible bound (by omega) rest
    rw [shape]
    simp only [readStmtBy, if_neg notReturn, if_neg notIf, if_true, expect, inside,
      Option.bind_eq_bind, Option.bind_some]
  | .breakUnless cond =>
    rw [Stmt.isLegible, Bool.and_eq_true, beq_iff_eq] at legible
    have shape : (Stmt.breakUnless cond).lexemes ++ rest = .word "if" :: .mark "(" :: .mark "!" ::
        (cond.lexemes ++ .mark ")" :: .word "break" :: .mark ";" :: rest) := by
      rw [Stmt.lexemes]
      simp
    have read := readOperand_lexemes legible.1 legible.2 (.inl rfl)
      (.word "break" :: .mark ";" :: rest)
    rw [shape, readStmtBy_if]
    simp only [readIfBy, expect, if_true, read, Option.bind_eq_bind, Option.bind_some]

theorem Stmt.readBlock_lexemes {stmts : List Stmt} (legible : Stmt.allLegible stmts) (bound : Nat)
    (enough : (Stmt.lexemesAll stmts).length < bound) (rest : List Lexeme) :
    readBlock bound (Stmt.lexemesAll stmts ++ .mark "\x7d" :: rest) = some (stmts, rest) := by
  match stmts, bound with
  | [], bound + 1 => rfl
  | stmt :: stmts, bound + 1 =>
    rw [Stmt.allLegible, Bool.and_eq_true] at legible
    obtain ⟨word, more, same, -⟩ := Stmt.lexemes_eq_cons legible.1
    have unclosed (rest : List Lexeme) : expect [.mark "\x7d"] (stmt.lexemes ++ rest) = none := by
      rw [same]
      rfl
    have length : stmt.lexemes.length = more.length + 1 := by rw [same, List.length_cons]
    rw [Stmt.lexemesAll, List.length_append] at enough
    have first := Stmt.readStmtBy_lexemes legible.1 bound (by omega)
      (unlinked_lexemesAll legible.2 rest)
    have others := Stmt.readBlock_lexemes legible.2 bound (by omega) rest
    rw [Stmt.lexemesAll, List.append_assoc]
    simp only [readBlock, unclosed, first, others, Option.bind_eq_bind, Option.bind_some]

end

def Function.head (function : Function) : Ty × String × List String :=
  (function.returns, function.name, function.params)

def readParam (lexemes : List Lexeme) : Option (String × List Lexeme) := do
  let rest ← expect Ty.longLong.lexemes lexemes
  readName rest

/-- The parameters of a function with the bracket that closes them. -/
def readParams (lexemes : List Lexeme) : Option (List String × List Lexeme) :=
  match expect [.word "void", .mark ")"] lexemes with
  | some rest => some ([], rest)
  | none => separated readParam lexemes.length lexemes

def readHead (isStatic : Bool) : Reader Lexeme (Ty × String × List String) := fun lexemes => do
  let rest ← expect (if isStatic then [.word "static"] else []) lexemes
  let (returns, rest) ← readType rest
  let (name, rest) ← readName rest
  let rest ← expect [.mark "("] rest
  let (params, rest) ← readParams rest
  some ((returns, name, params), rest)

def readDefinition (isStatic : Bool) : Reader Lexeme Function := fun lexemes => do
  let ((returns, name, params), rest) ← readHead isStatic lexemes
  let rest ← expect [.mark "\x7b"] rest
  let (body, rest) ← readBlock rest.length rest
  some ({ isStatic, returns, name, params, body }, rest)

def readPrototype (lexemes : List Lexeme) : Option ((Ty × String × List String) × List Lexeme) := do
  let (head, rest) ← readHead false lexemes
  let rest ← expect [.mark ";"] rest
  some (head, rest)

def readGlobal (lexemes : List Lexeme) : Option (String × List Lexeme) := do
  let (name, rest) ← readParam lexemes
  let rest ← expect [.mark "=", .number "0", .mark ";"] rest
  some (name, rest)

def readHeader (text : List Char) : Option (String × List Char) := do
  let rest ← expect "#include <".toList text
  let name := rest.takeWhile File.isHeaderChar
  let rest ← expect ">\n".toList (rest.dropWhile File.isHeaderChar)
  some (String.ofList name, rest)

/-- A file with the given headers. There is one prototype for each function but `main`. -/
def File.ofLexemes? (headers : List String) (lexemes : List Lexeme) : Option File :=
  let bound := lexemes.length
  let (prelude, rest) := many (readDefinition true) bound lexemes
  let (globals, rest) := many readGlobal bound rest
  let (prototypes, rest) := many readPrototype bound rest
  let (definitions, rest) := many (readDefinition false) bound rest
  match rest, definitions.getLast? with
  | [], some main =>
    let functions := definitions.dropLast
    if main.name = "main" ∧ prototypes = functions.map Function.head then
      some { headers, prelude, globals, functions, main }
    else none
  | _, _ => none

def File.ofText? (text : String) : Option File := do
  let (headers, rest) := many readHeader text.length text.toList
  let lexemes ← scan rest
  File.ofLexemes? headers lexemes

theorem readParam_lexemes {name : String} (isName : isIdentifier name) (rest : List Lexeme) :
    readParam (Ty.longLong.lexemes ++ .word name :: rest) = some (name, rest) := by
  rw [readParam, expect_append]
  exact readName_word isName rest

theorem separated_lexemesParams {params : List String}
    (legible : ∀ param ∈ params, isIdentifier param) (given : params ≠ []) (bound : Nat)
    (bounded : (Function.lexemesParams params).length < bound) (rest : List Lexeme) :
    separated readParam bound (Function.lexemesParams params ++ .mark ")" :: rest) =
      some (params, rest) := by
  induction params generalizing bound with
  | nil => exact absurd rfl given
  | cons param params ih =>
    obtain ⟨first, others⟩ := List.forall_mem_cons.1 legible
    obtain ⟨bound, rfl⟩ : ∃ less, bound = less + 1 := ⟨bound - 1, by omega⟩
    cases params with
    | nil => exact separated_last (readParam_lexemes first (.mark ")" :: rest)) bound
    | cons next params =>
      have shape : Function.lexemesParams (param :: next :: params) ++ .mark ")" :: rest =
          Ty.longLong.lexemes ++ .word param :: .mark "," ::
            (Function.lexemesParams (next :: params) ++ .mark ")" :: rest) := by
        rw [Function.lexemesParams] <;> simp
      have length : (Function.lexemesParams (param :: next :: params)).length =
          4 + (Function.lexemesParams (next :: params)).length := by
        rw [Function.lexemesParams]
        · simp only [List.length_append, Ty.lexemes, List.length_cons, List.length_nil]
        all_goals simp
      rw [shape]
      exact separated_cons (readParam_lexemes first _)
        (ih others (List.cons_ne_nil next params) bound (by omega))

theorem readParams_lexemes {params : List String} (legible : ∀ param ∈ params, isIdentifier param)
    (rest : List Lexeme) :
    readParams ((if params.isEmpty then [.word "void"] else Function.lexemesParams params) ++
      .mark ")" :: rest) = some (params, rest) := by
  cases params with
  | nil => rfl
  | cons param params =>
    have typed (rest : List Lexeme) : expect [.word "void", .mark ")"]
        (Function.lexemesParams (param :: params) ++ rest) = none := by
      cases params <;> rfl
    rw [List.isEmpty_cons, if_neg Bool.false_ne_true, readParams, typed]
    exact separated_lexemesParams legible (List.cons_ne_nil param params) _ (by simp) rest

theorem readHead_lexemesHead {function : Function} (legible : function.isLegible)
    (rest : List Lexeme) :
    readHead function.isStatic (function.lexemesHead ++ rest) = some (function.head, rest) := by
  simp only [Function.isLegible, Bool.and_eq_true, List.all_eq_true] at legible
  have shape : function.lexemesHead ++ rest =
      (if function.isStatic then [.word "static"] else []) ++ (function.returns.lexemes ++
        .word function.name :: .mark "(" ::
          ((if function.params.isEmpty then [.word "void"]
            else Function.lexemesParams function.params) ++ .mark ")" :: rest)) := by
    rw [Function.lexemesHead]
    simp
  rw [shape]
  simp only [readHead, expect_append, readType_lexemes, readName_word legible.1.1, expect, if_true,
    readParams_lexemes legible.1.2, Option.bind_eq_bind, Option.bind_some]
  rfl

theorem Function.lexemes_append (function : Function) (rest : List Lexeme) :
    function.lexemes ++ rest = function.lexemesHead ++ .mark "\x7b" ::
      (Stmt.lexemesAll function.body ++ .mark "\x7d" :: rest) := by
  rw [Function.lexemes]
  simp

theorem readDefinition_lexemes {function : Function} (legible : function.isLegible)
    (rest : List Lexeme) :
    readDefinition function.isStatic (function.lexemes ++ rest) = some (function, rest) := by
  have body : Stmt.allLegible function.body := (Bool.and_eq_true_iff.1 legible).2
  have inside := Stmt.readBlock_lexemes body
    (Stmt.lexemesAll function.body ++ Lexeme.mark "\x7d" :: rest).length (by simp) rest
  rw [function.lexemes_append]
  simp only [readDefinition, readHead_lexemesHead legible, Function.head, expect, if_true, inside,
    Option.bind_eq_bind, Option.bind_some]

theorem readPrototype_lexemes {function : Function} (legible : function.isLegible)
    (exported : function.isStatic = false) (rest : List Lexeme) :
    readPrototype (File.lexemesPrototype function ++ rest) = some (function.head, rest) := by
  have read := readHead_lexemesHead legible (.mark ";" :: rest)
  rw [exported] at read
  rw [File.lexemesPrototype, List.append_assoc, List.singleton_append]
  simp only [readPrototype, read, expect, if_true, Option.bind_eq_bind, Option.bind_some]

theorem readGlobal_lexemes {name : String} (isName : isIdentifier name) (rest : List Lexeme) :
    readGlobal (File.lexemesGlobal name ++ rest) = some (name, rest) := by
  rw [File.lexemesGlobal, List.append_assoc, List.append_assoc, List.singleton_append]
  simp only [readGlobal, readParam_lexemes isName, expect_append, Option.bind_eq_bind,
    Option.bind_some]

theorem readHeader_render {name : String} (isName : name.toList.all File.isHeaderChar)
    (rest : List Char) :
    readHeader (("#include <" ++ name ++ ">\n").toList ++ rest) = some (name, rest) := by
  have shape : ("#include <" ++ name ++ ">\n").toList ++ rest =
      "#include <".toList ++ (name.toList ++ (">\n".toList ++ rest)) := by
    simp only [String.toList_append, List.append_assoc]
  have stops : ∀ char ∈ (">\n".toList ++ rest).head?, ¬File.isHeaderChar char := by
    rintro _ ⟨⟩
    decide
  have front := Token.takeWhile_run (List.all_eq_true.1 isName) stops
  have back := Token.dropWhile_run (List.all_eq_true.1 isName) stops
  rw [shape]
  simp only [readHeader, expect_append, front, back, String.ofList_toList, Option.bind_eq_bind,
    Option.bind_some]

theorem length_le_flatMap {α σ : Type} {written : α → List σ} {list : List α}
    (some : ∀ a ∈ list, written a ≠ []) : list.length ≤ (list.flatMap written).length := by
  induction list with
  | nil => exact Nat.le_refl _
  | cons a list ih =>
    obtain ⟨first, others⟩ := List.forall_mem_cons.1 some
    have here := List.length_pos_iff.2 first
    have behind := ih others
    rw [List.flatMap_cons, List.length_append, List.length_cons]
    omega

theorem Function.lexemesHead_eq {function : Function} (exported : function.isStatic = false) :
    ∃ more, function.lexemesHead =
      function.returns.lexemes ++ .word function.name :: .mark "(" :: more := by
  refine ⟨(if function.params.isEmpty then [.word "void"] else lexemesParams function.params) ++
    [.mark ")"], ?_⟩
  rw [lexemesHead, exported]
  simp

theorem readDefinition_type (ty : Ty) (rest : List Lexeme) :
    readDefinition true (ty.lexemes ++ rest) = none := by
  cases ty <;> rfl

theorem readGlobal_lexemesHead {function : Function} (exported : function.isStatic = false)
    (rest : List Lexeme) : readGlobal (function.lexemesHead ++ rest) = none := by
  obtain ⟨more, same⟩ := Function.lexemesHead_eq exported
  rw [same, List.append_assoc]
  cases function.returns with
  | int => rfl
  | unsignedLongLong => rfl
  | longLong =>
    cases isName : isIdentifier function.name <;>
      simp [readGlobal, readParam, expect_append, readName, isName, expect]

theorem readPrototype_lexemes_eq_none {function : Function} (legible : function.isLegible)
    (exported : function.isStatic = false) (rest : List Lexeme) :
    readPrototype (function.lexemes ++ rest) = none := by
  have read := readHead_lexemesHead legible
    (.mark "\x7b" :: (Stmt.lexemesAll function.body ++ .mark "\x7d" :: rest))
  rw [exported] at read
  rw [function.lexemes_append, readPrototype, read]
  rfl

namespace File

variable {file : File}

theorem lexemes_eq (file : File) :
    file.lexemes = file.prelude.flatMap Function.lexemes ++ (file.globals.flatMap lexemesGlobal ++
      (file.functions.flatMap lexemesPrototype ++ file.definitions.flatMap Function.lexemes)) := by
  simp [lexemes, File.definitions]

theorem exists_definition (file : File) :
    ∃ function ∈ file.definitions, ∃ more,
      file.definitions.flatMap Function.lexemes = function.lexemes ++ more := by
  rw [File.definitions]
  cases file.functions with
  | nil => exact ⟨file.main, List.mem_cons_self, [], rfl⟩
  | cons function functions =>
    exact ⟨function, List.mem_cons_self, (functions ++ [file.main]).flatMap Function.lexemes, rfl⟩

theorem exists_head (file : File) :
    ∃ function ∈ file.definitions, ∃ more,
      file.functions.flatMap lexemesPrototype ++ file.definitions.flatMap Function.lexemes =
        function.lexemesHead ++ more := by
  cases same : file.functions with
  | nil =>
    obtain ⟨function, mem, more, first⟩ := file.exists_definition
    rw [List.flatMap_nil, List.nil_append, first, Function.lexemes, List.append_assoc,
      List.append_assoc, List.append_assoc]
    exact ⟨function, mem, _, rfl⟩
  | cons function functions =>
    have mem : function ∈ file.definitions := by
      rw [File.definitions, same]
      exact List.mem_cons_self
    rw [List.flatMap_cons, lexemesPrototype, List.append_assoc, List.append_assoc]
    exact ⟨function, mem, _, rfl⟩

theorem Legible.exists_type (legible : file.Legible) :
    ∃ (ty : Ty) (more : List Lexeme), file.globals.flatMap lexemesGlobal ++
      (file.functions.flatMap lexemesPrototype ++ file.definitions.flatMap Function.lexemes) =
        ty.lexemes ++ more := by
  cases file.globals with
  | nil =>
    obtain ⟨function, mem, more, head⟩ := file.exists_head
    obtain ⟨others, same⟩ := Function.lexemesHead_eq (legible.definitions function mem).2
    rw [List.flatMap_nil, List.nil_append, head, same, List.append_assoc]
    exact ⟨_, _, rfl⟩
  | cons name globals =>
    rw [List.flatMap_cons, lexemesGlobal, List.append_assoc, List.append_assoc, List.append_assoc]
    exact ⟨_, _, rfl⟩

theorem Legible.many_prelude (legible : file.Legible) (bound : Nat)
    (enough : file.prelude.length ≤ bound) :
    many (readDefinition true) bound (file.prelude.flatMap Function.lexemes ++
      (file.globals.flatMap lexemesGlobal ++
        (file.functions.flatMap lexemesPrototype ++ file.definitions.flatMap Function.lexemes))) =
      (file.prelude.map id, file.globals.flatMap lexemesGlobal ++ (file.functions.flatMap
        lexemesPrototype ++ file.definitions.flatMap Function.lexemes)) := by
  refine many_flatMap (fun function mem rest => ?_) ?_ enough
  · obtain ⟨readable, static⟩ := legible.prelude function mem
    rw [← static]
    exact readDefinition_lexemes readable rest
  · obtain ⟨ty, more, same⟩ := legible.exists_type
    rw [same]
    exact readDefinition_type ty more

theorem Legible.many_globals (legible : file.Legible) (bound : Nat)
    (enough : file.globals.length ≤ bound) :
    many readGlobal bound (file.globals.flatMap lexemesGlobal ++
        (file.functions.flatMap lexemesPrototype ++ file.definitions.flatMap Function.lexemes)) =
      (file.globals.map id,
        file.functions.flatMap lexemesPrototype ++ file.definitions.flatMap Function.lexemes) := by
  refine many_flatMap (fun name mem rest => ?_) ?_ enough
  · exact readGlobal_lexemes (legible.globals name mem) rest
  · obtain ⟨function, mem, more, same⟩ := file.exists_head
    rw [same]
    exact readGlobal_lexemesHead (legible.definitions function mem).2 more

theorem Legible.many_prototypes (legible : file.Legible) (bound : Nat)
    (enough : file.functions.length ≤ bound) :
    many readPrototype bound
        (file.functions.flatMap lexemesPrototype ++ file.definitions.flatMap Function.lexemes) =
      (file.functions.map Function.head, file.definitions.flatMap Function.lexemes) := by
  refine many_flatMap (fun function mem rest => ?_) ?_ enough
  · obtain ⟨readable, exported⟩ := legible.functions function mem
    exact readPrototype_lexemes readable exported rest
  · obtain ⟨function, mem, more, same⟩ := file.exists_definition
    obtain ⟨readable, exported⟩ := legible.definitions function mem
    rw [same]
    exact readPrototype_lexemes_eq_none readable exported more

theorem Legible.many_definitions (legible : file.Legible) (bound : Nat)
    (enough : file.definitions.length ≤ bound) :
    many (readDefinition false) bound (file.definitions.flatMap Function.lexemes ++ []) =
      (file.definitions.map id, []) := by
  refine many_flatMap (fun function mem rest => ?_) rfl enough
  obtain ⟨readable, exported⟩ := legible.definitions function mem
  rw [← exported]
  exact readDefinition_lexemes readable rest

theorem Legible.ofLexemes? (legible : file.Legible) :
    File.ofLexemes? file.headers file.lexemes = some file := by
  have length := congrArg List.length file.lexemes_eq
  simp only [List.length_append] at length
  have preludeLength : file.prelude.length ≤ (file.prelude.flatMap Function.lexemes).length :=
    length_le_flatMap fun function _ => by simp [Function.lexemes]
  have globalsLength : file.globals.length ≤ (file.globals.flatMap lexemesGlobal).length :=
    length_le_flatMap fun name _ => by simp [lexemesGlobal]
  have functionsLength : file.functions.length ≤ (file.functions.flatMap lexemesPrototype).length :=
    length_le_flatMap fun function _ => by simp [lexemesPrototype]
  have definitionsLength :
      file.definitions.length ≤ (file.definitions.flatMap Function.lexemes).length :=
    length_le_flatMap fun function _ => by simp [Function.lexemes]
  have prelude := legible.many_prelude file.lexemes.length (by omega)
  have globals := legible.many_globals file.lexemes.length (by omega)
  have prototypes := legible.many_prototypes file.lexemes.length (by omega)
  have definitions := legible.many_definitions file.lexemes.length (by omega)
  rw [← file.lexemes_eq] at prelude
  rw [List.append_nil] at definitions
  have last : file.definitions.getLast? = some file.main := by
    rw [File.definitions, List.getLast?_concat]
  have others : file.definitions.dropLast = file.functions := by
    rw [File.definitions, List.dropLast_concat]
  rw [File.ofLexemes?]
  simp only [prelude, globals, prototypes, definitions, List.map_id, last, others,
    legible.main.2.2, and_self, if_true]

theorem toList_renderHeaders (headers : List String) : (renderHeaders headers).toList =
    headers.flatMap fun header => ("#include <" ++ header ++ ">\n").toList := by
  rw [renderHeaders, String.toList_join, List.flatMap_map]

theorem length_headers_le (headers : List String) :
    headers.length ≤ (renderHeaders headers).toList.length := by
  rw [toList_renderHeaders]
  exact length_le_flatMap fun header _ => by simp

theorem Legible.many_headers (legible : file.Legible) (rest : String) (bound : Nat)
    (enough : file.headers.length ≤ bound) :
    many readHeader bound (renderHeaders file.headers ++ "\n" ++ rest).toList =
      (file.headers.map id, "\n".toList ++ rest.toList) := by
  rw [String.toList_append, String.toList_append, toList_renderHeaders, List.append_assoc]
  exact many_flatMap (fun header mem rest => readHeader_render (legible.headers header mem) rest)
    rfl enough

theorem Legible.ofText?_render (legible : file.Legible) : ofText? file.render = some file := by
  obtain ⟨rest, same, scanned⟩ := legible.render_eq
  have enough : file.headers.length ≤ file.render.length := by
    have length := length_headers_le file.headers
    rw [← String.length_toList, same, String.toList_append, String.toList_append,
      List.length_append, List.length_append]
    omega
  have headers := legible.many_headers rest file.render.length enough
  have blank : scan ("\n".toList ++ rest.toList) = scan rest.toList := rfl
  rw [← same] at headers
  rw [ofText?, headers, List.map_id]
  simp only [blank, scanned, Option.bind_eq_bind, Option.bind_some, legible.ofLexemes?]

end File

end ImpToC.C
