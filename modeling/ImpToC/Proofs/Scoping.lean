import ImpToC.Proofs.C.Lexemes
import ImpToC.Proofs.Linking
import ImpToC.Proofs.Names

/-! Scopes in generated code. A declaration is in scope from the next statement on to the
end of its block and in the blocks inside it. Lowered code declares its temporaries in the
order of their numbers, uses each only where it is in scope, and mentions no variables and
calls no functions but those of the source. All of this is kept by putting pieces of code
one after another and one inside another, which is all that lowering does. -/
namespace ImpToC

namespace C

mutual

def Expr.parts : Expr → List Expr
  | literal digits => [.literal digits]
  | int value => [.int value]
  | text content => [.text content]
  | ident name => [.ident name]
  | call callee args => .call callee args :: Expr.partsAll args
  | binary op left right => .binary op left right :: (left.parts ++ right.parts)
  | both left right => .both left right :: (left.parts ++ right.parts)
  | neg inner => .neg inner :: inner.parts
  | cast ty inner => .cast ty inner :: inner.parts
  | paren inner => .paren inner :: inner.parts

def Expr.partsAll : List Expr → List Expr
  | [] => []
  | expr :: exprs => expr.parts ++ Expr.partsAll exprs

end

mutual

/-- A statement and the statements inside it, in the order they are written. -/
def Stmt.preorder : Stmt → List Stmt
  | declare ty name value => [.declare ty name value]
  | assign name value => [.assign name value]
  | expr value => [.expr value]
  | ret value => [.ret value]
  | ifThen cond body => .ifThen cond body :: Stmt.preorderAll body
  | ifElse cond body other =>
    .ifElse cond body other :: (Stmt.preorderAll body ++ Stmt.preorderAll other)
  | forever body => .forever body :: Stmt.preorderAll body
  | breakUnless cond => [.breakUnless cond]

def Stmt.preorderAll : List Stmt → List Stmt
  | [] => []
  | stmt :: stmts => stmt.preorder ++ Stmt.preorderAll stmts

end

namespace Stmt

def binds : Stmt → List String
  | declare _ name _ => [name]
  | _ => []

def sets : Stmt → List String
  | assign name _ => [name]
  | _ => []

/-- The expression a statement evaluates itself. -/
def exprs : Stmt → List Expr
  | declare _ _ value => [value]
  | assign _ value => [value]
  | expr value => [value]
  | ret value => [value]
  | ifThen cond _ => [cond]
  | ifElse cond _ _ => [cond]
  | forever _ => []
  | breakUnless cond => [cond]

end Stmt

/-- What the statements of a piece of code contribute, in the order they are written. -/
def collect {α : Type} (own : Stmt → List α) (code : List Stmt) : List α :=
  (Stmt.preorderAll code).flatMap own

def declared (code : List Stmt) : List String := collect Stmt.binds code

def assigned (code : List Stmt) : List String := collect Stmt.sets code

def parts (code : List Stmt) : List Expr := collect (fun stmt => Expr.partsAll stmt.exprs) code

section Collect

variable {α : Type} (own : Stmt → List α)

theorem collect_append (first second : List Stmt) :
    collect own (first ++ second) = collect own first ++ collect own second := by
  induction first with
  | nil => rfl
  | cons stmt first ih =>
    rw [collect, collect] at ih ⊢
    rw [List.cons_append, Stmt.preorderAll, Stmt.preorderAll, List.flatMap_append, ih,
      List.flatMap_append, List.append_assoc]

theorem collect_single {stmt : Stmt} (single : stmt.preorder = [stmt]) :
    collect own [stmt] = own stmt := by
  rw [collect, Stmt.preorderAll, Stmt.preorderAll, List.append_nil, single, List.flatMap_singleton]

theorem collect_ifThen (cond : Expr) (body : List Stmt) :
    collect own [.ifThen cond body] = own (.ifThen cond body) ++ collect own body := by
  rw [collect, Stmt.preorderAll, Stmt.preorderAll, List.append_nil, Stmt.preorder,
    List.flatMap_cons, collect]

theorem collect_ifElse (cond : Expr) (body other : List Stmt) :
    collect own [.ifElse cond body other] =
      own (.ifElse cond body other) ++ (collect own body ++ collect own other) := by
  rw [collect, Stmt.preorderAll, Stmt.preorderAll, List.append_nil, Stmt.preorder,
    List.flatMap_cons, List.flatMap_append, collect, collect]

theorem collect_forever (body : List Stmt) :
    collect own [.forever body] = own (.forever body) ++ collect own body := by
  rw [collect, Stmt.preorderAll, Stmt.preorderAll, List.append_nil, Stmt.preorder,
    List.flatMap_cons, collect]

end Collect

theorem Expr.partsAll_singleton (expr : Expr) : Expr.partsAll [expr] = expr.parts := by
  rw [Expr.partsAll, Expr.partsAll, List.append_nil]

def Expr.Within (scope : List String) (expr : Expr) : Prop :=
  ∀ name, .ident name ∈ expr.parts → name ∈ scope

mutual

def Stmt.Scoped (scope : List String) : Stmt → Prop
  | declare _ _ value => value.Within scope
  | assign name value => name ∈ scope ∧ value.Within scope
  | expr value => value.Within scope
  | ret value => value.Within scope
  | ifThen cond body => cond.Within scope ∧ Stmt.AllScoped scope body
  | ifElse cond body other =>
    cond.Within scope ∧ Stmt.AllScoped scope body ∧ Stmt.AllScoped scope other
  | forever body => Stmt.AllScoped scope body
  | breakUnless cond => cond.Within scope

/-- A block in which every name that is used is in scope. Its own declarations are in scope
behind them and are forgotten at its end. -/
def Stmt.AllScoped (scope : List String) : List Stmt → Prop
  | [] => True
  | stmt :: stmts => stmt.Scoped scope ∧ Stmt.AllScoped (stmt.binds ++ scope) stmts

end

theorem Expr.Within.mono {scope more : List String} {expr : Expr} (within : expr.Within scope)
    (wider : scope ⊆ more) : expr.Within more :=
  fun name mem => wider (within name mem)

mutual

theorem Stmt.Scoped.mono {scope more : List String} {stmt : Stmt} (inScope : stmt.Scoped scope)
    (wider : scope ⊆ more) : stmt.Scoped more := by
  match stmt with
  | .declare _ _ _ | .expr _ | .ret _ | .breakUnless _ =>
    rw [Stmt.Scoped] at inScope ⊢
    exact inScope.mono wider
  | .assign _ _ =>
    rw [Stmt.Scoped] at inScope ⊢
    exact ⟨wider inScope.1, inScope.2.mono wider⟩
  | .ifThen _ _ =>
    rw [Stmt.Scoped] at inScope ⊢
    exact ⟨inScope.1.mono wider, inScope.2.mono wider⟩
  | .ifElse _ _ _ =>
    rw [Stmt.Scoped] at inScope ⊢
    exact ⟨inScope.1.mono wider, inScope.2.1.mono wider, inScope.2.2.mono wider⟩
  | .forever _ =>
    rw [Stmt.Scoped] at inScope ⊢
    exact inScope.mono wider

theorem Stmt.AllScoped.mono {scope more : List String} {stmts : List Stmt}
    (inScope : Stmt.AllScoped scope stmts) (wider : scope ⊆ more) : Stmt.AllScoped more stmts := by
  match stmts with
  | [] => trivial
  | stmt :: stmts =>
    rw [Stmt.AllScoped] at inScope ⊢
    refine ⟨inScope.1.mono wider, inScope.2.mono ?_⟩
    exact List.append_subset.2
      ⟨List.subset_append_left _ _, List.Subset.trans wider (List.subset_append_right _ _)⟩

end

/-- What stands behind a piece of code sees the declarations of its outermost block. -/
theorem Stmt.AllScoped.append {scope : List String} {first second : List Stmt}
    (inScope : Stmt.AllScoped scope first)
    (behind : Stmt.AllScoped (first.flatMap Stmt.binds ++ scope) second) :
    Stmt.AllScoped scope (first ++ second) := by
  induction first generalizing scope with
  | nil => exact behind
  | cons stmt first ih =>
    rw [Stmt.AllScoped] at inScope
    rw [List.cons_append, Stmt.AllScoped]
    refine ⟨inScope.1, ih inScope.2 (behind.mono ?_)⟩
    intro name mem
    simp only [List.flatMap_cons, List.mem_append] at mem ⊢
    rcases mem with (own | later) | old
    · exact .inr (.inl own)
    · exact .inl later
    · exact .inr (.inr old)

end C

namespace Lower

def temps (low high : Nat) : List String := (List.range' low (high - low)).map tempName

theorem temps_append {low middle high : Nat} (first : low ≤ middle) (second : middle ≤ high) :
    temps low middle ++ temps middle high = temps low high := by
  have whole : middle - low + (high - middle) = high - low := by omega
  have start : low + 1 * (middle - low) = middle := by omega
  rw [temps, temps, temps, ← List.map_append, ← whole, ← List.range'_append, start]

theorem temps_self (low : Nat) : temps low low = [] := by
  rw [temps, Nat.sub_self, List.range'_zero, List.map_nil]

theorem temps_succ (low : Nat) : temps low (low + 1) = [tempName low] := by
  rw [temps, Nat.add_sub_cancel_left, List.range'_one, List.map_singleton]

variable {vars : List String} {calls : List CallSite}

/-- The part of an expression mentions none but these variables of the source and calls none
but these functions. -/
structure Allowed (vars : List String) (calls : List CallSite) (part : C.Expr) : Prop where
  idents : ∀ name, part = .ident (variableName name) → name ∈ vars
  functions : ∀ name args, part = .call (functionName name) args → ⟨name, args.length⟩ ∈ calls

/-- Code that declares the temporaries from `low` to `high` in their order and may stand
where the names `needs` are in scope. -/
structure Tidy (vars : List String) (calls : List CallSite) (needs : List String) (low high : Nat)
    (code : List C.Stmt) : Prop where
  ordered : low ≤ high
  declared : C.declared code = temps low high
  inScope : C.Stmt.AllScoped needs code
  parts : ∀ part ∈ C.parts code, Allowed vars calls part
  assigned : ∀ name, variableName name ∈ C.assigned code → name ∈ vars
  legible : C.Stmt.allLegible code

theorem Tidy.append {needs : List String} {low middle high : Nat} {first second : List C.Stmt}
    (tidy : Tidy vars calls needs low middle first)
    (others : Tidy vars calls (first.flatMap C.Stmt.binds ++ needs) middle high second) :
    Tidy vars calls needs low high (first ++ second) where
  ordered := Nat.le_trans tidy.ordered others.ordered
  declared := by
    rw [C.declared, C.collect_append, ← C.declared, ← C.declared, tidy.declared, others.declared,
      temps_append tidy.ordered others.ordered]
  inScope := tidy.inScope.append others.inScope
  parts := by
    rw [C.parts, C.collect_append]
    exact List.forall_mem_append.2 ⟨tidy.parts, others.parts⟩
  assigned := by
    intro name mem
    rw [C.assigned, C.collect_append] at mem
    rcases List.mem_append.1 mem with mem | mem
    · exact tidy.assigned name mem
    · exact others.assigned name mem
  legible := C.Stmt.allLegible_append tidy.legible others.legible

theorem tidy_nil {needs : List String} (next : Nat) : Tidy vars calls needs next next [] where
  ordered := Nat.le_refl _
  declared := (temps_self next).symm
  inScope := trivial
  parts := fun _ mem => nomatch mem
  assigned := fun _ mem => nomatch mem
  legible := rfl

/-- What an expression has to be to stand in a statement of tidy code. -/
structure Fits (vars : List String) (calls : List CallSite) (scope : List String)
    (expr : C.Expr) : Prop where
  within : expr.Within scope
  parts : ∀ part ∈ expr.parts, Allowed vars calls part
  legible : expr.isLegible
  operand : expr.rank = 0

theorem isAlphanum_of_isName {name : String} (isName : Token.isName name) :
    ∀ char ∈ name.toList, char.isAlphanum := by
  intro char mem
  cases chars : name.toList with
  | nil =>
    rw [chars] at mem
    cases mem
  | cons first rest =>
    simp only [Token.isName, chars, Token.isNameStart, Token.isNamePart, Bool.and_eq_true,
      List.all_eq_true] at isName
    rw [chars] at mem
    rcases List.mem_cons.1 mem with rfl | mem
    · rw [Char.isAlphanum, isName.1, Bool.true_or]
    · exact isName.2 char mem

theorem isWordPart_of_isName {name : String} (isName : Token.isName name) :
    ∀ char ∈ '_' :: name.toList, C.Lexeme.isWordPart char := by
  refine List.forall_mem_cons.2 ⟨rfl, fun char mem => ?_⟩
  rw [C.Lexeme.isWordPart, isAlphanum_of_isName isName char mem, Bool.true_or]

theorem isIdentifier_variableName {name : String} (isName : Token.isName name) :
    C.isIdentifier (variableName name) :=
  C.isIdentifier_of_toList (variableName_toList name) rfl rfl (isWordPart_of_isName isName)

theorem isIdentifier_functionName {name : String} (isName : Token.isName name) :
    C.isIdentifier (functionName name) :=
  C.isIdentifier_of_toList (functionName_toList name) rfl rfl (isWordPart_of_isName isName)

theorem isIdentifier_tempName (index : Nat) : C.isIdentifier (tempName index) := by
  obtain ⟨digit, rest, same, first, others⟩ := C.exists_digits index
  have chars := tempName_toList index
  rw [same] at chars
  refine C.isIdentifier_of_toList chars rfl ?_ fun char mem => ?_
  · exact Bool.eq_false_iff.2 fun letter => Token.not_isDigit_of_isAlpha letter first
  · have digits : ∀ char ∈ digit :: rest, char.isDigit := List.forall_mem_cons.2 ⟨first, others⟩
    rw [C.Lexeme.isWordPart, Char.isAlphanum, digits char mem, Bool.or_true, Bool.true_or]

/-- The operand that holds the value of an expression: a numeral, or a temporary that is in
scope. -/
inductive Operand (scope : List String) : C.Expr → Prop where
  | literal {digits : String} (canonical : Decimal.isCanonical digits) :
    Operand scope (.literal digits)
  | temp {index : Nat} (known : tempName index ∈ scope) : Operand scope (.ident (tempName index))

theorem fits_ident {scope : List String} {name : String} (known : name ∈ scope)
    (mentioned : ∀ var, name = variableName var → var ∈ vars) (isName : C.isIdentifier name) :
    Fits vars calls scope (.ident name) := by
  refine ⟨?_, ?_, ?_, rfl⟩
  · intro other mem
    simp only [C.Expr.parts, List.mem_singleton, C.Expr.ident.injEq] at mem
    rwa [mem]
  · simp only [C.Expr.parts, List.mem_singleton, forall_eq]
    exact ⟨fun var same => mentioned var (C.Expr.ident.inj same), by simp⟩
  · rwa [C.Expr.isLegible]

theorem Operand.fits {scope : List String} {operand : C.Expr} (is : Operand scope operand) :
    Fits vars calls scope operand := by
  cases is with
  | literal canonical =>
    refine ⟨?_, ?_, ?_, rfl⟩
    · intro name mem
      simp [C.Expr.parts] at mem
    · simp only [C.Expr.parts, List.mem_singleton, forall_eq]
      exact ⟨by simp, by simp⟩
    · rwa [C.Expr.isLegible]
  | temp known =>
    exact fits_ident known (fun var same => absurd same.symm (variableName_ne_tempName var _))
      (isIdentifier_tempName _)

theorem Operand.mono {scope more : List String} {operand : C.Expr} (is : Operand scope operand)
    (wider : scope ⊆ more) : Operand more operand := by
  cases is with
  | literal canonical => exact .literal canonical
  | temp known => exact .temp (wider known)

theorem mem_partsAll {part : C.Expr} {exprs : List C.Expr} :
    part ∈ C.Expr.partsAll exprs ↔ ∃ expr ∈ exprs, part ∈ expr.parts := by
  induction exprs with
  | nil => simp [C.Expr.partsAll]
  | cons expr exprs ih => simp [C.Expr.partsAll, ih]

theorem fits_call {scope : List String} {callee : String} {operands : List C.Expr}
    (isName : C.isIdentifier callee)
    (known : ∀ name, callee = functionName name → ⟨name, operands.length⟩ ∈ calls)
    (all : ∀ operand ∈ operands, Fits vars calls scope operand) :
    Fits vars calls scope (.call callee operands) := by
  refine ⟨?_, ?_, ?_, rfl⟩
  · intro name mem
    rw [C.Expr.parts, List.mem_cons] at mem
    rcases mem with same | mem
    · cases same
    · obtain ⟨operand, listed, inside⟩ := mem_partsAll.1 mem
      exact (all operand listed).within name inside
  · intro part mem
    rw [C.Expr.parts, List.mem_cons] at mem
    rcases mem with rfl | mem
    · refine ⟨by simp, ?_⟩
      rintro name args ⟨⟩
      exact known name rfl
    · obtain ⟨operand, listed, inside⟩ := mem_partsAll.1 mem
      exact (all operand listed).parts part inside
  · rw [C.Expr.isLegible, isName, Bool.true_and, C.Expr.allLegible_iff]
    exact fun operand listed => (all operand listed).legible

theorem fits_compare {scope : List String} {left right : C.Expr} (op : RelOp)
    (first : Fits vars calls scope left) (second : Fits vars calls scope right) :
    Fits vars calls scope (.paren (.binary (.rel op) left right)) := by
  refine ⟨?_, ?_, ?_, rfl⟩
  · intro name mem
    simp only [C.Expr.parts, List.mem_cons, List.mem_append, reduceCtorEq, false_or] at mem
    rcases mem with mem | mem
    · exact first.within name mem
    · exact second.within name mem
  · intro part mem
    simp only [C.Expr.parts, List.mem_cons, List.mem_append] at mem
    rcases mem with rfl | rfl | mem | mem
    · exact ⟨by simp, by simp⟩
    · exact ⟨by simp, by simp⟩
    · exact first.parts part mem
    · exact second.parts part mem
  · rw [C.Expr.isLegible, C.Expr.isLegible, first.legible, second.legible, first.operand,
      second.operand]
    rfl

theorem fits_operation {scope : List String} {left right : C.Expr} (op : Operator)
    (first : Fits vars calls scope left) (second : Fits vars calls scope right) :
    Fits vars calls scope (operation op left right) := by
  cases op with
  | rel op => exact fits_compare op first second
  | arith op =>
    refine fits_call (by cases op <;> decide) ?_ ?_
    · exact fun name same => absurd same.symm (functionName_ne_arithName name op)
    · simp only [List.mem_cons, List.not_mem_nil, or_false]
      rintro operand (rfl | rfl)
      · exact first
      · exact second

theorem fits_variable {scope : List String} {name : String} (isName : Token.isName name)
    (mentioned : name ∈ vars) (known : variableName name ∈ scope) :
    Fits vars calls scope (.ident (variableName name)) :=
  fits_ident known (fun _ same => variableName_inj.1 same ▸ mentioned)
    (isIdentifier_variableName isName)

theorem tidy_temp {needs : List String} {value : C.Expr} (index : Nat)
    (fits : Fits vars calls needs value) :
    Tidy vars calls needs index (index + 1) [temp index value] where
  ordered := Nat.le_succ _
  declared := by
    rw [C.declared, C.collect_single _ rfl, temps_succ]
    rfl
  inScope := by
    rw [C.Stmt.AllScoped, C.Stmt.AllScoped, temp, C.Stmt.Scoped]
    exact ⟨fits.within, trivial⟩
  parts := by
    rw [C.parts, C.collect_single _ rfl, temp, C.Stmt.exprs, C.Expr.partsAll_singleton]
    exact fits.parts
  assigned := by
    rw [C.assigned, C.collect_single _ rfl]
    exact fun name mem => nomatch mem
  legible := by
    refine C.Stmt.allLegible_singleton ?_
    rw [temp, C.Stmt.isLegible, isIdentifier_tempName index, fits.legible]
    rfl

theorem tidy_single {needs : List String} {stmt : C.Stmt} {value : C.Expr} (next : Nat)
    (single : stmt.preorder = [stmt]) (free : stmt.binds = []) (only : stmt.exprs = [value])
    (inScope : stmt.Scoped needs) (legible : stmt.isLegible)
    (mentioned : ∀ name, variableName name ∈ stmt.sets → name ∈ vars)
    (fits : Fits vars calls needs value) : Tidy vars calls needs next next [stmt] where
  ordered := Nat.le_refl _
  declared := by rw [C.declared, C.collect_single _ single, free, temps_self]
  inScope := by
    rw [C.Stmt.AllScoped, C.Stmt.AllScoped]
    exact ⟨inScope, trivial⟩
  parts := by
    rw [C.parts, C.collect_single _ single, only, C.Expr.partsAll_singleton]
    exact fits.parts
  assigned := by
    rw [C.assigned, C.collect_single _ single]
    exact mentioned
  legible := C.Stmt.allLegible_singleton legible

theorem tidy_assign {needs : List String} {target : String} {value : C.Expr} (next : Nat)
    (known : target ∈ needs) (isName : C.isIdentifier target)
    (mentioned : ∀ name, target = variableName name → name ∈ vars)
    (fits : Fits vars calls needs value) :
    Tidy vars calls needs next next [.assign target value] := by
  refine tidy_single next rfl rfl rfl ?_ ?_ ?_ fits
  · rw [C.Stmt.Scoped]
    exact ⟨known, fits.within⟩
  · rw [C.Stmt.isLegible, isName, fits.legible]
    rfl
  · exact fun name mem => mentioned name (List.mem_singleton.1 mem).symm

theorem tidy_call {needs : List String} {callee : String} {args : List C.Expr} (next : Nat)
    (fits : Fits vars calls needs (.call callee args)) :
    Tidy vars calls needs next next [.expr (.call callee args)] := by
  refine tidy_single next rfl rfl rfl ?_ ?_ ?_ fits
  · rw [C.Stmt.Scoped]
    exact fits.within
  · rw [C.Stmt.isLegible]
    exact fits.legible
  · exact fun name mem => nomatch mem

theorem tidy_ret {needs : List String} {value : C.Expr} (next : Nat)
    (fits : Fits vars calls needs value) : Tidy vars calls needs next next [.ret value] := by
  refine tidy_single next rfl rfl rfl ?_ ?_ ?_ fits
  · rw [C.Stmt.Scoped]
    exact fits.within
  · rw [C.Stmt.isLegible]
    exact fits.legible
  · exact fun name mem => nomatch mem

theorem tidy_breakUnless {needs : List String} {cond : C.Expr} (next : Nat)
    (fits : Fits vars calls needs cond) : Tidy vars calls needs next next [.breakUnless cond] := by
  refine tidy_single next rfl rfl rfl ?_ ?_ ?_ fits
  · rw [C.Stmt.Scoped]
    exact fits.within
  · rw [C.Stmt.isLegible, fits.legible, fits.operand]
    rfl
  · exact fun name mem => nomatch mem

theorem Tidy.ifThen {needs : List String} {cond : C.Expr} {body : List C.Stmt} {low high : Nat}
    (fits : Fits vars calls needs cond) (tidy : Tidy vars calls needs low high body) :
    Tidy vars calls needs low high [.ifThen cond body] where
  ordered := tidy.ordered
  declared := by
    rw [C.declared, C.collect_ifThen]
    exact tidy.declared
  inScope := by
    rw [C.Stmt.AllScoped, C.Stmt.AllScoped, C.Stmt.Scoped]
    exact ⟨⟨fits.within, tidy.inScope⟩, trivial⟩
  parts := by
    rw [C.parts, C.collect_ifThen, C.Stmt.exprs, C.Expr.partsAll_singleton]
    exact List.forall_mem_append.2 ⟨fits.parts, tidy.parts⟩
  assigned := by
    rw [C.assigned, C.collect_ifThen]
    exact tidy.assigned
  legible := by
    refine C.Stmt.allLegible_singleton ?_
    rw [C.Stmt.isLegible, fits.legible, tidy.legible]
    rfl

theorem Tidy.ifElse {needs : List String} {cond : C.Expr} {body other : List C.Stmt}
    {low middle high : Nat} (fits : Fits vars calls needs cond)
    (tidy : Tidy vars calls needs low middle body)
    (others : Tidy vars calls needs middle high other) :
    Tidy vars calls needs low high [.ifElse cond body other] where
  ordered := Nat.le_trans tidy.ordered others.ordered
  declared := by
    rw [C.declared, C.collect_ifElse, ← temps_append tidy.ordered others.ordered, ← tidy.declared,
      ← others.declared]
    rfl
  inScope := by
    rw [C.Stmt.AllScoped, C.Stmt.AllScoped, C.Stmt.Scoped]
    exact ⟨⟨fits.within, tidy.inScope, others.inScope⟩, trivial⟩
  parts := by
    rw [C.parts, C.collect_ifElse, C.Stmt.exprs, C.Expr.partsAll_singleton]
    exact List.forall_mem_append.2 ⟨fits.parts, List.forall_mem_append.2 ⟨tidy.parts, others.parts⟩⟩
  assigned := by
    intro name mem
    have own : (C.Stmt.ifElse cond body other).sets = [] := rfl
    rw [C.assigned, C.collect_ifElse, own, List.nil_append] at mem
    rcases List.mem_append.1 mem with mem | mem
    · exact tidy.assigned name mem
    · exact others.assigned name mem
  legible := by
    refine C.Stmt.allLegible_singleton ?_
    rw [C.Stmt.isLegible, fits.legible, tidy.legible, others.legible]
    rfl

theorem Tidy.forever {needs : List String} {body : List C.Stmt} {low high : Nat}
    (tidy : Tidy vars calls needs low high body) :
    Tidy vars calls needs low high [.forever body] where
  ordered := tidy.ordered
  declared := by
    rw [C.declared, C.collect_forever]
    exact tidy.declared
  inScope := by
    rw [C.Stmt.AllScoped, C.Stmt.AllScoped, C.Stmt.Scoped]
    exact ⟨tidy.inScope, trivial⟩
  parts := by
    rw [C.parts, C.collect_forever]
    exact tidy.parts
  assigned := by
    rw [C.assigned, C.collect_forever]
    exact tidy.assigned
  legible := by
    refine C.Stmt.allLegible_singleton ?_
    rw [C.Stmt.isLegible]
    exact tidy.legible

theorem operand_temp {needs : List String} {code : List C.Stmt} {value : C.Expr} (index : Nat) :
    Operand ((code ++ [temp index value]).flatMap C.Stmt.binds ++ needs)
      (.ident (tempName index)) := by
  refine .temp (List.mem_append_left _ ?_)
  rw [List.flatMap_append]
  exact List.mem_append_right _ (List.mem_singleton.2 rfl)

theorem known_append {needs : List String} (more : List String)
    (known : ∀ name ∈ vars, variableName name ∈ needs) :
    ∀ name ∈ vars, variableName name ∈ more ++ needs :=
  fun name mem => List.mem_append_right _ (known name mem)

theorem binds_append_subset {needs : List String} {first second : List C.Stmt} :
    second.flatMap C.Stmt.binds ++ (first.flatMap C.Stmt.binds ++ needs) ⊆
      (first ++ second).flatMap C.Stmt.binds ++ needs := by
  intro name mem
  simp only [List.flatMap_append, List.mem_append] at mem ⊢
  rcases mem with mem | mem | mem
  · exact .inl (.inr mem)
  · exact .inl (.inl mem)
  · exact .inr mem

end Lower

open Lower

variable {vars : List String} {calls : List CallSite}

mutual

theorem Expr.lower_tidy {expr : Expr} {needs : List String} {next high : Nat}
    {code : List C.Stmt} {operand : C.Expr} (lowered : expr.lower next = (code, operand, high))
    (valid : expr.isValid) (mentioned : expr.vars ⊆ vars) (called : expr.calls ⊆ calls)
    (known : ∀ name ∈ vars, variableName name ∈ needs) :
    Tidy vars calls needs next high code ∧
      Operand (code.flatMap C.Stmt.binds ++ needs) operand := by
  match expr with
  | .num digits =>
    simp only [Expr.lower, Prod.mk.injEq] at lowered
    obtain ⟨rfl, rfl, rfl⟩ := lowered
    rw [Expr.isValid] at valid
    exact ⟨tidy_nil next, .literal valid⟩
  | .var name =>
    simp only [Expr.lower, Prod.mk.injEq] at lowered
    obtain ⟨rfl, rfl, rfl⟩ := lowered
    rw [Expr.isValid] at valid
    rw [Expr.vars] at mentioned
    have isOne : name ∈ vars := mentioned (List.mem_singleton.2 rfl)
    have fits : Fits vars calls needs (.ident (variableName name)) :=
      fits_variable valid isOne (known name isOne)
    exact ⟨tidy_temp next fits, @operand_temp needs [] _ next⟩
  | .binary op left right =>
    rcases leftLowered : left.lower next with ⟨leftCode, leftOperand, middle⟩
    rcases rightLowered : right.lower middle with ⟨rightCode, rightOperand, last⟩
    simp only [Expr.lower, leftLowered, rightLowered, Prod.mk.injEq] at lowered
    obtain ⟨rfl, rfl, rfl⟩ := lowered
    rw [Expr.isValid, Bool.and_eq_true] at valid
    rw [Expr.vars, List.append_subset] at mentioned
    rw [Expr.calls, List.append_subset] at called
    obtain ⟨tidyLeft, isLeft⟩ := Expr.lower_tidy leftLowered valid.1 mentioned.1 called.1 known
    obtain ⟨tidyRight, isRight⟩ := Expr.lower_tidy rightLowered valid.2 mentioned.2 called.2
      (known_append (leftCode.flatMap C.Stmt.binds) known)
    have bothKnown := @binds_append_subset needs leftCode rightCode
    have first := isLeft.mono (List.Subset.trans (List.subset_append_right _ _) bothKnown)
    have second := isRight.mono bothKnown
    exact ⟨(tidyLeft.append tidyRight).append
      (tidy_temp last (fits_operation op first.fits second.fits)),
      operand_temp last⟩
  | .call callee args =>
    rcases argsLowered : Expr.lowerAll args next with ⟨argsCode, operands, last⟩
    simp only [Expr.lower, argsLowered, Prod.mk.injEq] at lowered
    obtain ⟨rfl, rfl, rfl⟩ := lowered
    rw [Expr.isValid, Bool.and_eq_true] at valid
    rw [Expr.vars] at mentioned
    rw [Expr.calls, List.cons_subset] at called
    obtain ⟨tidyArgs, count, are⟩ := Expr.lowerAll_tidy argsLowered valid.2 mentioned called.2 known
    refine ⟨tidyArgs.append
      (tidy_temp last (fits_call ?_ ?_ fun operand listed => (are operand listed).fits)),
      operand_temp last⟩
    · exact isIdentifier_functionName valid.1
    · intro name same
      rw [← functionName_inj.1 same, count]
      exact called.1

theorem Expr.lowerAll_tidy {args : List Expr} {needs : List String} {next high : Nat}
    {code : List C.Stmt} {operands : List C.Expr}
    (lowered : Expr.lowerAll args next = (code, operands, high)) (valid : Expr.allValid args)
    (mentioned : Expr.varsList args ⊆ vars) (called : Expr.callsList args ⊆ calls)
    (known : ∀ name ∈ vars, variableName name ∈ needs) :
    Tidy vars calls needs next high code ∧ operands.length = args.length ∧
      ∀ operand ∈ operands, Operand (code.flatMap C.Stmt.binds ++ needs) operand := by
  match args with
  | [] =>
    simp only [Expr.lowerAll, Prod.mk.injEq] at lowered
    obtain ⟨rfl, rfl, rfl⟩ := lowered
    exact ⟨tidy_nil next, rfl, fun _ mem => nomatch mem⟩
  | arg :: args =>
    rcases argLowered : arg.lower next with ⟨argCode, operand, middle⟩
    rcases restLowered : Expr.lowerAll args middle with ⟨restCode, rest, last⟩
    simp only [Expr.lowerAll, argLowered, restLowered, Prod.mk.injEq] at lowered
    obtain ⟨rfl, rfl, rfl⟩ := lowered
    rw [Expr.allValid, Bool.and_eq_true] at valid
    rw [Expr.varsList, List.append_subset] at mentioned
    rw [Expr.callsList, List.append_subset] at called
    obtain ⟨tidyArg, isArg⟩ := Expr.lower_tidy argLowered valid.1 mentioned.1 called.1 known
    obtain ⟨tidyRest, count, are⟩ := Expr.lowerAll_tidy restLowered valid.2 mentioned.2 called.2
      (known_append (argCode.flatMap C.Stmt.binds) known)
    have bothKnown := @binds_append_subset needs argCode restCode
    refine ⟨tidyArg.append tidyRest, by rw [List.length_cons, List.length_cons, count], ?_⟩
    intro operand listed
    rcases List.mem_cons.1 listed with rfl | listed
    · exact isArg.mono (List.Subset.trans (List.subset_append_right _ _) bothKnown)
    · exact (are operand listed).mono bothKnown

end

theorem fits_result {scope : List String} (known : resultName ∈ scope) :
    Fits vars calls scope (.ident resultName) :=
  fits_ident known (fun var same => absurd same (resultName_ne_variableName var)) (by decide)

theorem tidy_keep {needs : List String} {value : C.Expr} (next : Nat) (known : resultName ∈ needs)
    (fits : Fits vars calls needs value) :
    Tidy vars calls needs next next [.assign resultName value] :=
  tidy_assign next known (by decide)
    (fun name same => absurd same (resultName_ne_variableName name)) fits

theorem fits_print {scope : List String} {operand : C.Expr} (fits : Fits vars calls scope operand) :
    Fits vars calls scope (.call "rt_print" [operand]) := by
  refine fits_call (by decide) (fun name same => absurd same.symm (functionName_ne_print name)) ?_
  rintro value listed
  rwa [List.mem_singleton.1 listed]

theorem Stmt.lower_tidy {keep : Bool} {stmt : Stmt} {needs : List String} {next high : Nat}
    {code : List C.Stmt} (lowered : stmt.lower keep next = (code, high))
    (valid : stmt.isValid) (mentioned : stmt.vars ⊆ vars) (called : stmt.calls ⊆ calls)
    (known : ∀ name ∈ vars, variableName name ∈ needs) (kept : keep → resultName ∈ needs) :
    Tidy vars calls needs next high code := by
  induction stmt generalizing needs next high code with
  | assign target value =>
    rcases valueLowered : value.lower next with ⟨valueCode, operand, last⟩
    simp only [Stmt.lower, valueLowered, Prod.mk.injEq] at lowered
    obtain ⟨rfl, rfl⟩ := lowered
    rw [Stmt.isValid, Bool.and_eq_true] at valid
    rw [Stmt.vars, List.cons_subset] at mentioned
    obtain ⟨tidy, is⟩ := Expr.lower_tidy valueLowered valid.2 mentioned.2 called known
    have first := tidy.append (tidy_assign last (known_append _ known target mentioned.1)
      (isIdentifier_variableName valid.1) (fun name same => variableName_inj.1 same ▸ mentioned.1)
        is.fits)
    cases keep with
    | true =>
      exact first.append (tidy_keep last (List.mem_append_right _ (kept rfl))
        (fits_variable valid.1 mentioned.1 (known_append _ known target mentioned.1)))
    | false =>
      rw [if_neg (by decide), List.append_nil]
      exact first
  | print value =>
    rcases valueLowered : value.lower next with ⟨valueCode, operand, last⟩
    simp only [Stmt.lower, valueLowered, Prod.mk.injEq] at lowered
    obtain ⟨rfl, rfl⟩ := lowered
    obtain ⟨tidy, is⟩ := Expr.lower_tidy valueLowered valid mentioned called known
    have fits : Fits vars calls (valueCode.flatMap C.Stmt.binds ++ needs) operand := is.fits
    refine tidy.append ?_
    cases keep with
    | true => exact tidy_keep _ (List.mem_append_right _ (kept rfl)) (fits_print fits)
    | false => exact tidy_call _ (fits_print fits)
  | ifThen cond body ih =>
    rcases condLowered : cond.lower next with ⟨condCode, operand, middle⟩
    rcases bodyLowered : body.lower keep middle with ⟨bodyCode, last⟩
    simp only [Stmt.lower, condLowered, bodyLowered, Prod.mk.injEq] at lowered
    obtain ⟨rfl, rfl⟩ := lowered
    rw [Stmt.isValid, Bool.and_eq_true] at valid
    rw [Stmt.vars, List.append_subset] at mentioned
    rw [Stmt.calls, List.append_subset] at called
    obtain ⟨tidy, is⟩ := Expr.lower_tidy condLowered valid.1 mentioned.1 called.1 known
    refine tidy.append (.ifThen is.fits (ih bodyLowered valid.2 mentioned.2 called.2 ?_ ?_))
    · exact known_append _ known
    · exact fun keeps => List.mem_append_right _ (kept keeps)
  | ifElse cond body other ihBody ihOther =>
    rcases condLowered : cond.lower next with ⟨condCode, operand, middle⟩
    rcases bodyLowered : body.lower keep middle with ⟨bodyCode, second⟩
    rcases otherLowered : other.lower keep second with ⟨otherCode, last⟩
    simp only [Stmt.lower, condLowered, bodyLowered, otherLowered, Prod.mk.injEq] at lowered
    obtain ⟨rfl, rfl⟩ := lowered
    simp only [Stmt.isValid, Bool.and_eq_true] at valid
    simp only [Stmt.vars, List.append_subset] at mentioned
    simp only [Stmt.calls, List.append_subset] at called
    obtain ⟨tidy, is⟩ := Expr.lower_tidy condLowered valid.1.1 mentioned.1 called.1 known
    have stillKnown := known_append (condCode.flatMap C.Stmt.binds) known
    have stillKept : keep → resultName ∈ condCode.flatMap C.Stmt.binds ++ needs :=
      fun keeps => List.mem_append_right _ (kept keeps)
    exact tidy.append (.ifElse is.fits
      (ihBody bodyLowered valid.1.2 mentioned.2.1 called.2.1 stillKnown stillKept)
      (ihOther otherLowered valid.2 mentioned.2.2 called.2.2 stillKnown stillKept))
  | loop cond body ih =>
    rcases condLowered : cond.lower next with ⟨condCode, operand, middle⟩
    rcases bodyLowered : body.lower keep middle with ⟨bodyCode, last⟩
    simp only [Stmt.lower, condLowered, bodyLowered, Prod.mk.injEq] at lowered
    obtain ⟨rfl, rfl⟩ := lowered
    rw [Stmt.isValid, Bool.and_eq_true] at valid
    rw [Stmt.vars, List.append_subset] at mentioned
    rw [Stmt.calls, List.append_subset] at called
    obtain ⟨tidy, is⟩ := Expr.lower_tidy condLowered valid.1 mentioned.1 called.1 known
    refine .forever ((tidy.append (tidy_breakUnless _ is.fits)).append ?_)
    exact ih bodyLowered valid.2 mentioned.2 called.2 (known_append _ known)
      fun keeps => List.mem_append_right _ (kept keeps)
  | function name params body ih =>
    simp only [Stmt.lower, Prod.mk.injEq] at lowered
    obtain ⟨rfl, rfl⟩ := lowered
    exact tidy_nil next

theorem Stmt.lowerAll_tidy {keep : Bool} {stmts : List Stmt} {needs : List String}
    {next high : Nat} {code : List C.Stmt} (lowered : Stmt.lowerAll keep stmts next = (code, high))
    (valid : ∀ stmt ∈ stmts, stmt.isValid) (mentioned : ∀ stmt ∈ stmts, stmt.vars ⊆ vars)
    (called : ∀ stmt ∈ stmts, stmt.calls ⊆ calls)
    (known : ∀ name ∈ vars, variableName name ∈ needs) (kept : keep → resultName ∈ needs) :
    Tidy vars calls needs next high code := by
  induction stmts generalizing needs next high code with
  | nil =>
    simp only [Stmt.lowerAll, Prod.mk.injEq] at lowered
    obtain ⟨rfl, rfl⟩ := lowered
    exact tidy_nil next
  | cons stmt stmts ih =>
    rcases stmtLowered : stmt.lower keep next with ⟨stmtCode, middle⟩
    rcases restLowered : Stmt.lowerAll keep stmts middle with ⟨restCode, last⟩
    simp only [Stmt.lowerAll, stmtLowered, restLowered, Prod.mk.injEq] at lowered
    obtain ⟨rfl, rfl⟩ := lowered
    rw [List.forall_mem_cons] at valid mentioned called
    have first := Stmt.lower_tidy stmtLowered valid.1 mentioned.1 called.1 known kept
    refine first.append (ih restLowered valid.2 mentioned.2 called.2 ?_ ?_)
    · exact known_append _ known
    · exact fun keeps => List.mem_append_right _ (kept keeps)

end ImpToC
