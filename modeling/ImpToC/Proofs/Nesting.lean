import Mathlib.Tactic.Ring
import ImpToC.Proofs.Reading

/-! How high a tree the levels of the parser allow. A level is taken by every statement,
every factor and every operator of a chain, but the levels a chain takes come back when it
ends, and its first operand was read before they were taken. So a sum on top of a product
on top of a call can use the same levels three times, and what is inside the call has one
level less to do the same again: the height grows with the square of the levels. -/
namespace ImpToC

namespace Tree

mutual

/-- The number of nodes on the longest way down. -/
def height : Tree → Nat
  | node _ _ children => heights children + 1

def heights : List Tree → Nat
  | [] => 0
  | tree :: trees => max tree.height (heights trees)

end

attribute [local simp] height heights

@[simp]
theorem height_num (digits : String) : (num digits).height = 1 := by
  simp [num]

@[simp]
theorem height_ident (text : String) : (ident text).height = 1 := by
  simp [ident]

@[simp]
theorem height_binary (kind : Token.Kind) (left right : Tree) :
    (binary kind left right).height = max left.height right.height + 1 := by
  simp [binary]

@[simp]
theorem height_call (callee : String) (args : List Tree) :
    (call callee args).height = max 1 (heights args) + 1 := by
  simp [call]

@[simp]
theorem height_assign (target : String) (value : Tree) :
    (assign target value).height = max 1 value.height + 1 := by
  simp [assign]

@[simp]
theorem height_print (value : Tree) : (print value).height = value.height + 1 := by
  simp [print]

@[simp]
theorem height_ifThen (cond body : Tree) :
    (ifThen cond body).height = max cond.height body.height + 1 := by
  simp [ifThen]

@[simp]
theorem height_ifElse (cond body other : Tree) :
    (ifElse cond body other).height = max cond.height (max body.height other.height) + 1 := by
  simp [ifElse]

@[simp]
theorem height_loop (cond body : Tree) :
    (loop cond body).height = max cond.height body.height + 1 := by
  simp [loop]

theorem heights_le_iff {bound : Nat} {trees : List Tree} :
    heights trees ≤ bound ↔ ∀ tree ∈ trees, tree.height ≤ bound := by
  induction trees with
  | nil => simp [heights]
  | cons tree trees ih => simp [heights, ih]

theorem height_pos (tree : Tree) : 0 < tree.height := by
  obtain ⟨kind, value?, children⟩ := tree
  rw [height]
  exact Nat.succ_pos _

theorem height_lt_function (name : String) (params : List String) (body : Tree) :
    body.height < (function name params body).height := by
  rw [function, height, Nat.lt_succ_iff]
  exact heights_le_iff.1 (Nat.le_refl _) body (by simp)

theorem height_function_le {bound : Nat} {name : String} {params : List String} {body : Tree}
    (some : 0 < bound) (inner : body.height ≤ bound) :
    (function name params body).height ≤ bound + 1 := by
  rw [function, height, Nat.add_le_add_iff_right, heights_le_iff]
  simp only [List.mem_cons, List.mem_append, List.mem_map, List.not_mem_nil, or_false]
  rintro tree (rfl | ⟨param, _, rfl⟩ | rfl)
  · rwa [height_ident]
  · rwa [Tree.param, height, heights]
  · exact inner

end Tree

namespace Parse

variable {levels : Nat} {tokens rest : List Token}

/-- Whatever the rule reads is at most this high. -/
def Within (bound : Nat) (rule : Parse Expr) : Prop :=
  ∀ tokens result rest, rule tokens = .ok (result, rest) → result.toTree.height ≤ bound

theorem Within.mono {bound more : Nat} {rule : Parse Expr} (within : Within bound rule)
    (small : bound ≤ more) : Within more rule :=
  fun tokens result rest read => Nat.le_trans (within tokens result rest read) small

theorem factor_zero {result : Expr} : factor 0 tokens ≠ .ok (result, rest) := by
  intro read
  obtain ⟨below, positive, -⟩ := factor_eq_ok read
  cases positive

theorem term_zero {result : Expr} : term 0 tokens ≠ .ok (result, rest) := by
  intro read
  obtain ⟨first, middle, read, -⟩ := term_eq_ok.1 read
  exact factor_zero read

theorem Chain.height_le {ofKind? : Token.Kind → Option Operator} {operand : Nat → Parse Expr}
    {left result : Expr} {height : Nat}
    (chain : Chain ofKind? operand (levels + 1) left tokens result rest)
    (empty : ∀ tokens right rest, operand 0 tokens ≠ .ok (right, rest))
    (operands : ∀ k < levels, Within height (operand (k + 1)))
    (start : left.toTree.height ≤ height) :
    result.toTree.height ≤ height + levels := by
  induction levels generalizing height left tokens with
  | zero =>
    cases chain with
    | stop => exact start
    | more _ read => exact absurd read (empty _ _ _)
  | succ levels ih =>
    cases chain with
    | stop => omega
    | more _ read others =>
      have right := operands levels (Nat.lt_succ_self _) _ _ _ read
      have taller := ih others
        (fun k small => (operands k (by omega)).mono (Nat.le_succ height))
        (by rw [Expr.toTree, Tree.height_binary]; omega)
      omega

theorem within_term (upTo : ∀ k ≤ levels, Within (k ^ 2 + 2) (factor (k + 1))) :
    Within (levels ^ 2 + 2 + levels) (term (levels + 1)) := by
  intro tokens result rest done
  obtain ⟨first, middle, read, chain⟩ := term_eq_ok.1 done
  refine chain.height_le (fun _ _ _ => factor_zero) (fun k small => ?_)
    (upTo levels (Nat.le_refl _) _ _ _ read)
  exact (upTo k (by omega)).mono (Nat.add_le_add_right (Nat.pow_le_pow_left (by omega) 2) 2)

theorem within_expr_of (below : ∀ k < levels, Within (k ^ 2 + 2) (factor (k + 1))) :
    Within (levels ^ 2 + 1) (expr levels) := by
  intro tokens result rest done
  obtain ⟨first, middle, read, chain⟩ := expr_eq_ok.1 done
  cases levels with
  | zero => exact absurd read term_zero
  | succ levels =>
    have terms : ∀ k ≤ levels, Within (levels ^ 2 + 2 + levels) (term (k + 1)) := by
      intro k small
      have squares : k ^ 2 ≤ levels ^ 2 := Nat.pow_le_pow_left small 2
      exact (within_term fun j smaller => below j (by omega)).mono (by omega)
    have bound := chain.height_le (fun _ _ _ => term_zero) (fun k small => terms k (by omega))
      (terms levels (Nat.le_refl _) _ _ _ read)
    have square : (levels + 1) ^ 2 = levels ^ 2 + 2 * levels + 1 := by ring
    omega

theorem heights_argumentList_le {bound : Nat} {args : List Expr}
    (inner : Within bound (expr levels))
    (read : ArgumentsRead levels tokens args rest) : Tree.heights (Expr.toTrees args) ≤ bound := by
  induction read with
  | last read =>
    rw [Expr.toTrees, Expr.toTrees, Tree.heights, Tree.heights]
    exact Nat.max_le.2 ⟨inner _ _ _ read, Nat.zero_le _⟩
  | more read _ _ ih =>
    rw [Expr.toTrees, Tree.heights]
    exact Nat.max_le.2 ⟨inner _ _ _ read, ih⟩

theorem heights_arguments_le {bound : Nat} {args : List Expr} (inner : Within bound (expr levels))
    (read : arguments levels tokens = .ok (args, rest)) :
    Tree.heights (Expr.toTrees args) ≤ bound := by
  rcases arguments_eq_ok read with ⟨rfl, -⟩ | read
  · exact Nat.zero_le _
  · exact heights_argumentList_le inner read

theorem within_factor (levels : Nat) : Within (levels ^ 2 + 2) (factor (levels + 1)) := by
  induction levels using Nat.strongRecOn with
  | ind levels ih =>
    intro tokens result rest done
    have inner : Within (levels ^ 2 + 1) (expr levels) := within_expr_of ih
    obtain ⟨below, same, read⟩ := factor_eq_ok done
    cases same
    cases read with
    | num => simp [Expr.toTree]
    | var => simp [Expr.toTree]
    | call _ _ read =>
      have args := heights_arguments_le inner read
      rw [Expr.toTree, Tree.height_call]
      omega
    | group _ read =>
      have value := inner _ _ _ read
      omega

theorem within_expr (levels : Nat) : Within (levels ^ 2 + 1) (expr levels) :=
  within_expr_of fun k _ => within_factor k

theorem height_guard_le {cond : Expr} (test : guard levels tokens = .ok (cond, rest)) :
    cond.toTree.height ≤ levels ^ 2 + 2 := by
  obtain ⟨opening, closing, inner, -, -, read, -⟩ := guard_eq_ok test
  cases read with
  | single read =>
    have value := within_expr levels _ _ _ read
    omega
  | compare first _ second =>
    have left := within_expr levels _ _ _ first
    have right := within_expr levels _ _ _ second
    rw [Expr.toTree, Tree.height_binary]
    omega

theorem height_statement_le {result : Stmt}
    (done : statement (levels + 1) tokens = .ok (result, rest)) :
    result.toTree.height ≤ levels ^ 2 + 3 := by
  induction levels using Nat.strongRecOn generalizing tokens rest result with
  | ind levels ih =>
    have inner : ∀ {tokens body rest}, statement levels tokens = .ok (body, rest) →
        body.toTree.height ≤ levels ^ 2 + 2 := by
      intro tokens body rest read
      obtain ⟨below, rfl, -⟩ := statement_eq_ok read
      have square : (below + 1) ^ 2 = below ^ 2 + 2 * below + 1 := by ring
      have lower := ih below (Nat.lt_succ_self _) read
      omega
    obtain ⟨below, same, read⟩ := statement_eq_ok done
    cases same
    cases read with
    | assign _ _ read =>
      have value := within_expr levels _ _ _ read
      rw [Stmt.toTree, Tree.height_assign]
      omega
    | ifThen _ test read =>
      have cond := height_guard_le test
      have body := inner read
      rw [Stmt.toTree, Tree.height_ifThen]
      omega
    | ifElse _ test read _ alternative =>
      have cond := height_guard_le test
      have body := inner read
      have other := inner alternative
      rw [Stmt.toTree, Tree.height_ifElse]
      omega
    | loop _ test read =>
      have cond := height_guard_le test
      have body := inner read
      rw [Stmt.toTree, Tree.height_loop]
      omega
    | print _ _ read =>
      have value := within_expr levels _ _ _ read
      rw [Stmt.toTree, Tree.height_print]
      omega
    | function _ _ _ read => exact Tree.height_function_le (by omega) (inner read)

theorem height_statements_le {stmts : List Stmt} (done : statements tokens = .ok stmts) :
    ∀ stmt ∈ stmts, stmt.toTree.height ≤ (maxLevels - 1) ^ 2 + 3 := by
  fun_induction statements tokens generalizing stmts with
  | case1 =>
    cases done
    exact fun _ none => nomatch none
  | case2 token rest fault read => cases done
  | case3 token rest first left read fault others ih => cases done
  | case4 token rest first left read others all ih =>
    cases done
    intro stmt mem
    rcases List.mem_cons.1 mem with rfl | mem
    · exact height_statement_le read
    · exact ih all stmt mem

/-- The operator and a numeral after it, so many times over. -/
def links (op : Operator) : Nat → List Token → List Token
  | 0, rest => rest
  | count + 1, rest => ⟨op.kind, none⟩ :: ⟨.num, "1"⟩ :: links op count rest

def linked (op : Operator) : Nat → Expr → Expr
  | 0, left => left
  | count + 1, left => linked op count (.binary op left (.num "1"))

/-- A call around a sum around a product around such a call, to a given depth. -/
def calls : Nat → List Token → List Token
  | 0, rest => ⟨.ident, "f"⟩ :: ⟨.lparen, none⟩ :: ⟨.rparen, none⟩ :: rest
  | depth + 1, rest => ⟨.ident, "f"⟩ :: ⟨.lparen, none⟩ ::
    calls depth (links (.arith .mul) depth (links (.arith .add) depth (⟨.rparen, none⟩ :: rest)))

def nested : Nat → Expr
  | 0 => .call "f" []
  | depth + 1 => .call "f" [linked (.arith .add) depth (linked (.arith .mul) depth (nested depth))]

theorem height_linked {op : Operator} {left : Expr} (count : Nat) (some : 0 < left.toTree.height) :
    (linked op count left).toTree.height = left.toTree.height + count := by
  induction count generalizing left with
  | zero => rfl
  | succ count ih =>
    have taller : (Expr.binary op left (.num "1")).toTree.height = left.toTree.height + 1 := by
      rw [Expr.toTree, Expr.toTree, Tree.height_binary, Tree.height_num, Nat.max_eq_left some]
    rw [linked, ih (by omega), taller]
    omega

theorem height_linked_linked {first : Expr} (products sums : Nat) (some : 0 < first.toTree.height) :
    (linked (.arith .add) sums (linked (.arith .mul) products first)).toTree.height =
      first.toTree.height + products + sums := by
  have product : (linked (.arith .mul) products first).toTree.height =
      first.toTree.height + products := height_linked products some
  rw [height_linked sums (by omega), product]

theorem height_nested (depth : Nat) : (nested depth).toTree.height = depth ^ 2 + 2 := by
  induction depth with
  | zero => simp [nested, Expr.toTree, Expr.toTrees, Tree.heights]
  | succ depth ih =>
    have square : (depth + 1) ^ 2 = depth ^ 2 + 2 * depth + 1 := by ring
    rw [nested, Expr.toTree, Expr.toTrees, Expr.toTrees, Tree.height_call, Tree.heights,
      Tree.heights, height_linked_linked _ _ (by omega), ih]
    omega

theorem chain_links {ofKind? : Token.Kind → Option Operator} {operand : Nat → Parse Expr}
    {op : Operator} {count : Nat} (enough : count < levels) (isOp : ofKind? op.kind = some op)
    (reads : ∀ k tail, operand (k + 1) (⟨.num, "1"⟩ :: links op tail rest) =
      .ok (.num "1", links op tail rest))
    (ends : ∀ token others, rest = token :: others → ofKind? token.kind = none) (left : Expr) :
    Chain ofKind? operand levels left (links op count rest) (linked op count left) rest := by
  induction count generalizing levels left with
  | zero => exact .stop ends
  | succ count ih =>
    obtain ⟨less, rfl⟩ : ∃ less, levels = less + 1 + 1 := ⟨levels - 2, by omega⟩
    exact .more isOp (reads less count) (ih (by omega) _)

theorem expr_links {first : Expr} {mark : Token} {products sums : Nat}
    (someProducts : products < levels) (someSums : sums < levels)
    (noProduct : multiplicative? mark.kind = none) (noSum : additive? mark.kind = none)
    (read : factor levels tokens = .ok
      (first, links (.arith .mul) products (links (.arith .add) sums (mark :: rest)))) :
    expr levels tokens = .ok
      (linked (.arith .add) sums (linked (.arith .mul) products first), mark :: rest) := by
  have endsProduct : ∀ count token others,
      links (.arith .add) count (mark :: rest) = token :: others →
      multiplicative? token.kind = none := by
    rintro (_ | count) token others ⟨⟩
    · exact noProduct
    · rfl
  have product := term_eq_ok.2 ⟨_, _, read,
    chain_links someProducts rfl (fun _ _ => (FactorReads.num rfl).eq_ok) (endsProduct sums) first⟩
  refine expr_eq_ok.2 ⟨_, _, product, chain_links someSums rfl (fun k count => ?_) ?_ _⟩
  · exact term_eq_ok.2 ⟨_, _, (FactorReads.num rfl).eq_ok, .stop (endsProduct count)⟩
  · rintro token others ⟨⟩
    exact noSum

theorem factor_calls (depth : Nat) (rest : List Token) :
    factor (depth + 1) (calls depth rest) = .ok (nested depth, rest) := by
  induction depth generalizing rest with
  | zero => exact (FactorReads.call rfl rfl (arguments_of_none rfl)).eq_ok
  | succ depth ih =>
    have value := expr_links (Nat.lt_succ_self depth) (Nat.lt_succ_self depth) rfl rfl
      (ih (links (.arith .mul) depth (links (.arith .add) depth (⟨.rparen, none⟩ :: rest))))
    refine (FactorReads.call rfl rfl (arguments_of_read ?_ (.last value rfl))).eq_ok
    cases depth <;> simp [calls, Token.leads_cons]

theorem expr_one {mark : Token} (noProduct : multiplicative? mark.kind = none)
    (noSum : additive? mark.kind = none) :
    expr (levels + 1) (⟨.num, "1"⟩ :: mark :: rest) = .ok (.num "1", mark :: rest) := by
  have first : factor (levels + 1) (⟨.num, "1"⟩ :: links (.arith .mul) 0
      (links (.arith .add) 0 (mark :: rest))) = .ok (.num "1", mark :: rest) :=
    (FactorReads.num rfl).eq_ok
  exact expr_links (Nat.succ_pos _) (Nat.succ_pos _) noProduct noSum first

/-- The highest value there is, for this many levels. -/
def highest (depth : Nat) : Expr :=
  linked (.arith .add) depth (linked (.arith .mul) depth (nested depth))

theorem height_highest (depth : Nat) : (highest depth).toTree.height = (depth + 1) ^ 2 + 1 := by
  have inner := height_nested depth
  have square : (depth + 1) ^ 2 = depth ^ 2 + 2 * depth + 1 := by ring
  rw [highest, height_linked_linked _ _ (by omega)]
  omega

def compared : List Token :=
  [⟨.rel .lt, none⟩, ⟨.num, "1"⟩, ⟨.rparen, none⟩, ⟨.ident, "x"⟩, ⟨.assign, none⟩, ⟨.num, "1"⟩,
    ⟨.semi, none⟩]

def comparison (depth : Nat) : List Token :=
  ⟨.ifWord, none⟩ :: ⟨.lparen, none⟩ ::
    calls depth (links (.arith .mul) depth (links (.arith .add) depth compared))

def comparing (depth : Nat) : Stmt :=
  .ifThen (.binary (.rel .lt) (highest depth) (.num "1")) (.assign "x" (.num "1"))

theorem height_comparing (depth : Nat) : (comparing depth).toTree.height = (depth + 1) ^ 2 + 3 := by
  simp only [comparing, Stmt.toTree, Expr.toTree, Tree.height_ifThen, Tree.height_binary,
    Tree.height_assign, Tree.height_num, height_highest]
  omega

theorem statement_comparison (depth : Nat) :
    statement (depth + 3) (comparison (depth + 1)) = .ok (comparing (depth + 1), []) := by
  have value : expr (depth + 2) (calls (depth + 1) (links (.arith .mul) (depth + 1)
      (links (.arith .add) (depth + 1) compared))) = .ok (highest (depth + 1), compared) :=
    expr_links (Nat.lt_succ_self (depth + 1)) (Nat.lt_succ_self (depth + 1)) rfl rfl
      (factor_calls (depth + 1) _)
  have body : statement (depth + 2) (compared.drop 3) = .ok (.assign "x" (.num "1"), []) :=
    (StatementReads.assign rfl rfl (expr_one rfl rfl) rfl).eq_ok
  refine (StatementReads.ifThen rfl ?_ body Token.not_leads_nil).eq_ok
  exact guard_of_condition rfl (condition_of_compare value rfl (expr_one rfl rfl)) rfl

end Parse

theorem Program.height_single (stmt : Stmt) :
    (Program.toTree ⟨[stmt]⟩).height = stmt.toTree.height + 1 := by
  simp [toTree, Tree.program, Tree.height, Tree.heights]

theorem Program.height_le_of_ofTokens {tokens : List Token} {program : Program}
    (done : ofTokens tokens = .ok program) :
    program.toTree.height ≤ (Parse.maxLevels - 1) ^ 2 + 4 := by
  rw [ofTokens] at done
  split at done
  · cases done
  · next read =>
    cases done
    rw [toTree, Tree.program, Tree.height, Nat.add_le_add_iff_right, Tree.heights_le_iff]
    intro tree mem
    obtain ⟨stmt, found, rfl⟩ := List.mem_map.1 mem
    exact Parse.height_statements_le read stmt found

theorem Program.exists_highest {depth : Nat} (levels : Parse.maxLevels = depth + 3) :
    ∃ tokens program, ofTokens tokens = .ok program ∧
      program.toTree.height = (Parse.maxLevels - 1) ^ 2 + 4 := by
  have read := Parse.statement_comparison depth
  rw [← levels] at read
  refine ⟨_, _, ofTokens_of_statement read, ?_⟩
  rw [height_single, Parse.height_comparing, levels]
  rfl

/-- The height of every tree that the parser builds is at most the square of the levels
below the outermost and four more, and nothing less bounds them all. -/
theorem Program.height_le_iff (bound : Nat) :
    (∀ tokens program, ofTokens tokens = .ok program → program.toTree.height ≤ bound) ↔
      (Parse.maxLevels - 1) ^ 2 + 4 ≤ bound := by
  constructor
  · intro bounded
    obtain ⟨tokens, program, done, highest⟩ := exists_highest rfl
    rw [← highest]
    exact bounded tokens program done
  · intro le tokens program done
    exact Nat.le_trans (height_le_of_ofTokens done) le

/-- A sum of three hundred after a product of three hundred is higher than there are levels. -/
theorem Program.height_sum_of_product :
    ∃ program, ofTokens (⟨.ident, "x"⟩ :: ⟨.assign, none⟩ :: ⟨.num, "1"⟩ ::
        Parse.links (.arith .mul) 300 (Parse.links (.arith .add) 300 [⟨.semi, none⟩])) =
          .ok program ∧
      Parse.maxLevels + 3 < program.toTree.height := by
  have first : Parse.factor 511 (⟨.num, "1"⟩ :: Parse.links (.arith .mul) 300
      (Parse.links (.arith .add) 300 [⟨.semi, none⟩])) = .ok (.num "1", _) :=
    (Parse.FactorReads.num rfl).eq_ok
  have value := Parse.expr_links (by decide) (by decide) rfl rfl first
  refine ⟨_, ofTokens_of_statement (Parse.StatementReads.assign rfl rfl value rfl).eq_ok, ?_⟩
  have leaf : (Expr.num "1").toTree.height = 1 := by rw [Expr.toTree, Tree.height_num]
  rw [height_single, Stmt.toTree, Tree.height_assign, Parse.height_linked_linked _ _ (by omega),
    leaf]
  decide

end ImpToC
