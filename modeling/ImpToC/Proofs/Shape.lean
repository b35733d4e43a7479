import Mathlib.Logic.ExistsUnique
import ImpToC.Proofs.Spelling

/-! Which trees encode programs. The syntax of programs has one form for each layout that a
node of a tree may have, and carries its names and numerals as texts; a program is well
spelled if the names are words and the numerals are shortest decimals in range. The reader of
trees accepts exactly the encodings of well-spelled programs, and each is the encoding of one
of them only. -/
namespace ImpToC

namespace Decimal

/-- Decimal digits, without a leading zero unless zero is meant, of a value in range. -/
structure IsNumeral (text : String) : Prop where
  digits : Token.IsDigits text.toList
  shortest : text.toList.head? = some '0' → text = "0"
  fits : Nat.ofDigitChars 10 text.toList 0 ≤ 9223372036854775807

theorem sub_lt_ten_of_isDigit {c : Char} (isDigit : c.isDigit) : c.toNat - '0'.toNat < 10 := by
  have range := Char.isDigit_iff_toNat.1 isDigit
  change 48 ≤ c.toNat ∧ c.toNat ≤ 57 at range
  change c.toNat - 48 < 10
  omega

theorem toDigits_digit {c : Char} (isDigit : c.isDigit) :
    Nat.toDigits 10 (c.toNat - '0'.toNat) = [c] := by
  have small := sub_lt_ten_of_isDigit isDigit
  have range := Char.isDigit_iff_toNat.1 isDigit
  have same : (c.toNat - '0'.toNat).digitChar.toNat = c.toNat := by
    rw [Nat.toNat_digitChar_of_lt_ten small]
    change 48 ≤ c.toNat ∧ c.toNat ≤ 57 at range
    change 48 + (c.toNat - 48) = c.toNat
    omega
  rw [Nat.toDigits_of_lt_base small, Char.toNat_inj.1 same]

/-- Digits behind the text of a number make up the text of the number they continue. -/
theorem toDigits_append {front : Nat} {digits : List Char} (positive : 0 < front)
    (isDigits : ∀ c ∈ digits, c.isDigit) :
    Nat.toDigits 10 front ++ digits = Nat.toDigits 10 (Nat.ofDigitChars 10 digits front) := by
  induction digits generalizing front with
  | nil => rw [List.append_nil, Nat.ofDigitChars_nil]
  | cons c digits ih =>
    obtain ⟨isDigit, others⟩ := List.forall_mem_cons.1 isDigits
    have joined := Nat.toDigits_append_toDigits (b := 10) (by omega) positive
      (sub_lt_ten_of_isDigit isDigit)
    rw [toDigits_digit isDigit] at joined
    rw [Nat.ofDigitChars_cons, ← ih (by omega) others, ← joined, List.append_assoc,
      List.singleton_append]

theorem toDigits_ofDigitChars {c : Char} {digits : List Char} (isDigit : c.isDigit)
    (nonzero : c ≠ '0') (others : ∀ d ∈ digits, d.isDigit) :
    Nat.toDigits 10 (Nat.ofDigitChars 10 (c :: digits) 0) = c :: digits := by
  have range := Char.isDigit_iff_toNat.1 isDigit
  have notZero : c.toNat ≠ '0'.toNat := fun same => nonzero (Char.toNat_inj.1 same)
  rw [Nat.ofDigitChars_cons, Nat.mul_zero, Nat.zero_add, ← toDigits_append (by omega) others,
    toDigits_digit isDigit, List.singleton_append]

theorem zero_of_head?_toDigits {n : Nat} (leads : (Nat.toDigits 10 n).head? = some '0') :
    n = 0 := by
  induction n using Nat.strongRecOn with
  | ind n ih =>
    by_cases small : n < 10
    · rw [Nat.toDigits_of_lt_base small, List.head?_cons, Option.some.injEq] at leads
      exact Nat.digitChar_eq_zero.1 leads
    · rw [Nat.toDigits_of_base_le (by omega) (by omega),
        List.head?_append, List.head?_eq_some_head Nat.toDigits_ne_nil, Option.some_or,
        ← List.head?_eq_some_head] at leads
      have quotient := ih (n / 10) (by omega) leads
      omega

theorem isNumeral_toString {n : Nat} (fits : n ≤ maxValue) : IsNumeral (toString n) := by
  have chars : (toString n).toList = Nat.toDigits 10 n := by
    rw [Nat.toString_eq_ofList_toDigits, String.toList_ofList]
  refine ⟨⟨?_, ?_⟩, ?_, ?_⟩
  · rw [chars]
    exact Nat.toDigits_ne_nil
  · rw [chars]
    exact fun c mem => Nat.isDigit_of_mem_toDigits (by omega) (by omega) mem
  · intro leads
    rw [chars] at leads
    rw [zero_of_head?_toDigits leads]
    rfl
  · rw [chars, Nat.ofDigitChars_ten_toDigits]
    exact fits

theorem isNumeral_iff {text : String} :
    IsNumeral text ↔ ∃ n, n ≤ maxValue ∧ text = toString n := by
  constructor
  · rintro ⟨⟨some, digits⟩, shortest, fits⟩
    refine ⟨_, fits, ?_⟩
    obtain ⟨c, rest, chars⟩ := List.exists_cons_of_ne_nil some
    by_cases zero : c = '0'
    · rw [shortest (by rw [chars, zero, List.head?_cons])]
      rfl
    · rw [chars] at digits
      obtain ⟨first, others⟩ := List.forall_mem_cons.1 digits
      rw [Nat.toString_eq_ofList_toDigits, chars, toDigits_ofDigitChars first zero others,
        ← chars, String.ofList_toList]
  · rintro ⟨n, fits, rfl⟩
    exact isNumeral_toString fits

end Decimal

mutual

def Expr.WellSpelled : Expr → Prop
  | num digits => Decimal.IsNumeral digits
  | var name => Token.IsWord name.toList
  | binary _ left right => left.WellSpelled ∧ right.WellSpelled
  | call callee args => Token.IsWord callee.toList ∧ Expr.AllWellSpelled args

def Expr.AllWellSpelled : List Expr → Prop
  | [] => True
  | arg :: args => arg.WellSpelled ∧ Expr.AllWellSpelled args

end

def Stmt.WellSpelled : Stmt → Prop
  | assign target value => Token.IsWord target.toList ∧ value.WellSpelled
  | print value => value.WellSpelled
  | ifThen cond body => cond.WellSpelled ∧ body.WellSpelled
  | ifElse cond body other => cond.WellSpelled ∧ body.WellSpelled ∧ other.WellSpelled
  | loop cond body => cond.WellSpelled ∧ body.WellSpelled
  | function name params body =>
    Token.IsWord name.toList ∧ (∀ param ∈ params, Token.IsWord param.toList) ∧ body.WellSpelled

def Program.WellSpelled (program : Program) : Prop :=
  ∀ stmt ∈ program.statements, stmt.WellSpelled

namespace Tree

def Spelled (leaves : List Tree) : Prop := leaves.findSome? misspelling? = none

theorem spelled_nil : Spelled [] := rfl

theorem spelled_append {first second : List Tree} :
    Spelled (first ++ second) ↔ Spelled first ∧ Spelled second := by
  simp only [Spelled, List.findSome?_append, Option.or_eq_none_iff]

theorem spelled_cons {leaf : Tree} {leaves : List Tree} :
    Spelled (leaf :: leaves) ↔ Spelled [leaf] ∧ Spelled leaves := by
  rw [← List.singleton_append, spelled_append]

theorem spelled_name {kind : Kind} {text : String} :
    Spelled [node kind (some (.name text)) []] ↔ Token.IsWord text.toList := by
  simp [Spelled, misspelling?, Token.isName_iff]

theorem spelled_num {digits : String} : Spelled [num digits] ↔ Decimal.IsNumeral digits := by
  simp [Spelled, misspelling?, num, Decimal.isCanonical_iff, Decimal.isNumeral_iff]

theorem spelled_params {params : List String} :
    Spelled (leavesList (params.map param)) ↔ ∀ name ∈ params, Token.IsWord name.toList := by
  induction params with
  | nil => simp [spelled_nil]
  | cons name params ih =>
    rw [List.map_cons, leavesList_cons, leaves_param, spelled_append, ih, param, spelled_name,
      List.forall_mem_cons]

end Tree

open ImpToC.Tree (Spelled spelled_append spelled_cons spelled_name spelled_num)

mutual

theorem Expr.spelled_iff (expr : Expr) : Spelled expr.toTree.leaves ↔ expr.WellSpelled := by
  match expr with
  | .num digits => rw [toTree, Tree.leaves_num, spelled_num, WellSpelled]
  | .var name => rw [toTree, Tree.leaves_ident, Tree.ident, spelled_name, WellSpelled]
  | .binary op left right =>
    rw [toTree, Tree.leaves_binary, spelled_append, Expr.spelled_iff left, Expr.spelled_iff right,
      WellSpelled]
  | .call callee args =>
    rw [toTree, Tree.leaves_call, spelled_cons, Tree.ident, spelled_name,
      Expr.spelled_all_iff args, WellSpelled]

theorem Expr.spelled_all_iff (args : List Expr) :
    Spelled (Tree.leavesList (Expr.toTrees args)) ↔ Expr.AllWellSpelled args := by
  match args with
  | [] =>
    rw [toTrees, AllWellSpelled]
    exact iff_true_intro Tree.spelled_nil
  | arg :: args =>
    rw [toTrees, Tree.leavesList_cons, spelled_append, Expr.spelled_iff arg,
      Expr.spelled_all_iff args, AllWellSpelled]

end

theorem Stmt.spelled_iff (stmt : Stmt) : Spelled stmt.toTree.leaves ↔ stmt.WellSpelled := by
  induction stmt with
  | assign target value =>
    rw [toTree, Tree.leaves_assign, spelled_cons, Tree.ident, spelled_name, value.spelled_iff,
      WellSpelled]
  | print value => rw [toTree, Tree.leaves_print, value.spelled_iff, WellSpelled]
  | ifThen cond body ih =>
    rw [toTree, Tree.leaves_ifThen, spelled_append, cond.spelled_iff, ih, WellSpelled]
  | ifElse cond body other ihBody ihOther =>
    rw [toTree, Tree.leaves_ifElse, spelled_append, spelled_append, cond.spelled_iff, ihBody,
      ihOther, WellSpelled]
  | loop cond body ih =>
    rw [toTree, Tree.leaves_loop, spelled_append, cond.spelled_iff, ih, WellSpelled]
  | function name params body ih =>
    rw [toTree, Tree.function, Tree.leaves_function, spelled_cons, Tree.ident, spelled_name,
      Tree.leavesList_append, spelled_append, Tree.spelled_params, Tree.leavesList_cons,
      Tree.leavesList_nil, List.append_nil, ih, WellSpelled]

namespace Program

theorem spelled_iff (program : Program) :
    Spelled program.toTree.leaves ↔ program.WellSpelled := by
  obtain ⟨stmts⟩ := program
  rw [toTree, Tree.leaves_program, WellSpelled]
  induction stmts with
  | nil => simp [Tree.spelled_nil]
  | cons stmt stmts ih =>
    rw [List.map_cons, Tree.leavesList_cons, spelled_append, stmt.spelled_iff, ih,
      List.forall_mem_cons]

/-- The encoding of a program reads back as that program if all is well spelled, and does not
read at all otherwise. -/
theorem ofTree_toTree_eq_ok_iff {program : Program} :
    ofTree program.toTree = .ok program ↔ program.WellSpelled := by
  rw [ofTree_toTree, Tree.verdict, ← spelled_iff, Spelled]
  cases program.toTree.leaves.findSome? Tree.misspelling? <;> simp

theorem ofTree_eq_ok_iff {tree : Tree} {program : Program} :
    ofTree tree = .ok program ↔ program.WellSpelled ∧ program.toTree = tree := by
  constructor
  · intro read
    obtain ⟨rfl, -⟩ := ofTree_eq_ok read
    exact ⟨ofTree_toTree_eq_ok_iff.1 read, rfl⟩
  · rintro ⟨spelled, rfl⟩
    exact ofTree_toTree_eq_ok_iff.2 spelled

/-- The reader of trees accepts a tree if and only if the tree is the encoding of a
well-spelled program, of which there is then one only; and that program is what it reads. -/
theorem ofTree_accepts_iff_encodes (tree : Tree) :
    ((∃ program, ofTree tree = .ok program) ↔
        ∃! program : { program : Program // program.WellSpelled }, program.val.toTree = tree) ∧
      ∀ program, ofTree tree = .ok program ↔ program.WellSpelled ∧ program.toTree = tree := by
  refine ⟨⟨?_, ?_⟩, fun program => ofTree_eq_ok_iff⟩
  · rintro ⟨program, read⟩
    obtain ⟨spelled, encodes⟩ := ofTree_eq_ok_iff.1 read
    refine ⟨⟨program, spelled⟩, encodes, fun ⟨other, otherSpelled⟩ same => ?_⟩
    have again : ofTree tree = .ok other := ofTree_eq_ok_iff.2 ⟨otherSpelled, same⟩
    rw [read, Except.ok.injEq] at again
    exact Subtype.ext again.symm
  · rintro ⟨⟨program, spelled⟩, encodes, -⟩
    exact ⟨program, ofTree_eq_ok_iff.2 ⟨spelled, encodes⟩⟩

end Program

end ImpToC
