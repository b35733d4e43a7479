import ImpToC.Syntax.OfTree

/-! A tree that reads as a program is the encoding of that program, and every name and
numeral in it is well spelled. Both facts hold for each part of the tree, so they are
proved together, one reader at a time. -/
namespace ImpToC

theorem Except.bind_eq_ok {ε α β : Type} {first : Except ε α} {next : α → Except ε β} {b : β} :
    (first >>= next) = .ok b ↔ ∃ a, first = .ok a ∧ next a = .ok b := by
  cases first with
  | error fault => simp [bind, Except.bind]
  | ok a => simp [bind, Except.bind]

namespace Tree

theorem leafName_eq_ok {kind : Kind} {value? : Option Value} {children : List Tree}
    {text : String} (read : leafName kind value? children = .ok text) :
    node kind value? children = node kind (some (.name text)) [] ∧ Token.isName text := by
  unfold leafName at read
  split at read
  · rename_i empty
    split at read
    · split at read
      · cases read
        exact ⟨by rw [List.eq_nil_of_length_eq_zero empty], by assumption⟩
      · cases read
    · cases read
  · cases read

theorem leafNumber_eq_ok {value? : Option Value} {children : List Tree} {digits : String}
    (read : leafNumber value? children = .ok digits) :
    node .num value? children = num digits ∧ Decimal.isCanonical digits := by
  unfold leafNumber at read
  split at read
  · rename_i empty
    split at read
    · split at read
      · cases read
        exact ⟨by rw [List.eq_nil_of_length_eq_zero empty, num], by assumption⟩
      · cases read
    · cases read
  · cases read

theorem childName_eq_ok {parent : Kind} {index : Nat} {wanted : Kind} {tree : Tree}
    {text : String} (read : childName parent index wanted tree = .ok text) :
    tree = node wanted (some (.name text)) [] ∧ Token.isName text := by
  cases tree with
  | node kind value? children =>
    simp only [childName] at read
    split at read
    · rename_i same
      subst same
      exact leafName_eq_ok read
    · cases read

theorem noValue_eq_ok {kind : Kind} {value? : Option Value}
    (read : noValue kind value? = .ok ()) : value? = none := by
  cases value? with
  | none => rfl
  | some value => cases read

end Tree

mutual

theorem Expr.ofTree_eq_ok {parent : Tree.Kind} {index : Nat} {tree : Tree} {expr : Expr}
    (read : Expr.ofTree parent index tree = .ok expr) :
    expr.toTree = tree ∧ expr.isValid := by
  match tree with
  | .node .num value? children =>
    simp only [Expr.ofTree, Except.bind_eq_ok] at read
    obtain ⟨digits, leaf, same⟩ := read
    cases same
    exact ⟨(Tree.leafNumber_eq_ok leaf).1.symm, (Tree.leafNumber_eq_ok leaf).2⟩
  | .node .ident value? children =>
    simp only [Expr.ofTree, Except.bind_eq_ok] at read
    obtain ⟨name, leaf, same⟩ := read
    cases same
    exact ⟨(Tree.leafName_eq_ok leaf).1.symm, (Tree.leafName_eq_ok leaf).2⟩
  | .node .binary none _ | .node .binary (some (.name _)) _
  | .node .binary (some (.number _)) _ => simp [Expr.ofTree] at read
  | .node .binary (some (.operator _)) [] | .node .binary (some (.operator _)) [_]
  | .node .binary (some (.operator _)) (_ :: _ :: _ :: _) =>
    simp only [Expr.ofTree] at read
    split at read <;> simp at read
  | .node .binary (some (.operator found)) [left, right] =>
    simp only [Expr.ofTree] at read
    split at read
    · cases read
    · rename_i op stands
      simp only [Except.bind_eq_ok] at read
      obtain ⟨a, readLeft, b, readRight, same⟩ := read
      cases same
      have hl := Expr.ofTree_eq_ok readLeft
      have hr := Expr.ofTree_eq_ok readRight
      rw [Token.Kind.operator?_eq_some_iff] at stands
      refine ⟨?_, ?_⟩
      · rw [Expr.toTree, hl.1, hr.1, ← stands, Tree.binary]
      · rw [Expr.isValid, hl.2, hr.2, Bool.and_self]
  | .node .call value? [] =>
    simp only [Expr.ofTree, Except.bind_eq_ok] at read
    obtain ⟨_, _, bad⟩ := read
    cases bad
  | .node .call value? (callee :: args) =>
    simp only [Expr.ofTree, Except.bind_eq_ok] at read
    obtain ⟨_, plain, name, first, parts, rest, same⟩ := read
    cases same
    have hargs := Expr.ofTrees_eq_ok rest
    have hname := Tree.childName_eq_ok first
    refine ⟨?_, ?_⟩
    · rw [Expr.toTree, hargs.1, Tree.noValue_eq_ok plain, hname.1, Tree.call, Tree.ident]
    · rw [Expr.isValid, hname.2, hargs.2, Bool.and_self]
  -- not an expression
  | .node .program _ _ | .node .assign _ _ | .node .ifElse _ _ | .node .loop _ _
  | .node .print _ _ | .node .function _ _ | .node .param _ _ => simp [Expr.ofTree] at read

theorem Expr.ofTrees_eq_ok {index : Nat} {trees : List Tree} {exprs : List Expr}
    (read : Expr.ofTrees index trees = .ok exprs) :
    Expr.toTrees exprs = trees ∧ Expr.allValid exprs := by
  match trees with
  | [] =>
    simp only [Expr.ofTrees] at read
    cases read
    exact ⟨by rw [Expr.toTrees], by rw [Expr.allValid]⟩
  | tree :: trees =>
    simp only [Expr.ofTrees, Except.bind_eq_ok] at read
    obtain ⟨a, first, as, rest, same⟩ := read
    cases same
    have ha := Expr.ofTree_eq_ok first
    have has := Expr.ofTrees_eq_ok rest
    exact ⟨by rw [Expr.toTrees, ha.1, has.1], by rw [Expr.allValid, ha.2, has.2, Bool.and_self]⟩

end

mutual

theorem Stmt.ofTree_eq_ok {parent : Tree.Kind} {index : Nat} {tree : Tree} {stmt : Stmt}
    (read : Stmt.ofTree parent index tree = .ok stmt) :
    stmt.toTree = tree ∧ stmt.isValid := by
  match tree with
  | .node .assign value? [target, value] =>
    simp only [Stmt.ofTree, Except.bind_eq_ok] at read
    obtain ⟨_, plain, name, first, expr, second, same⟩ := read
    cases same
    have hn := Tree.childName_eq_ok first
    have he := Expr.ofTree_eq_ok second
    refine ⟨?_, ?_⟩
    · rw [Stmt.toTree, he.1, Tree.noValue_eq_ok plain, hn.1, Tree.assign, Tree.ident]
    · rw [Stmt.isValid, hn.2, he.2, Bool.and_self]
  | .node .ifElse value? [cond, body] =>
    simp only [Stmt.ofTree, Except.bind_eq_ok] at read
    obtain ⟨_, plain, test, first, inner, second, same⟩ := read
    cases same
    have hc := Expr.ofTree_eq_ok first
    have hb := Stmt.ofTree_eq_ok second
    refine ⟨?_, ?_⟩
    · rw [Stmt.toTree, hc.1, hb.1, Tree.noValue_eq_ok plain, Tree.ifThen]
    · rw [Stmt.isValid, hc.2, hb.2, Bool.and_self]
  | .node .ifElse value? [cond, body, other] =>
    simp only [Stmt.ofTree, Except.bind_eq_ok] at read
    obtain ⟨_, plain, test, first, inner, second, final, third, same⟩ := read
    cases same
    have hc := Expr.ofTree_eq_ok first
    have hb := Stmt.ofTree_eq_ok second
    have ho := Stmt.ofTree_eq_ok third
    refine ⟨?_, ?_⟩
    · rw [Stmt.toTree, hc.1, hb.1, ho.1, Tree.noValue_eq_ok plain, Tree.ifElse]
    · rw [Stmt.isValid, hc.2, hb.2, ho.2, Bool.and_self, Bool.and_self]
  | .node .loop value? [cond, body] =>
    simp only [Stmt.ofTree, Except.bind_eq_ok] at read
    obtain ⟨_, plain, test, first, inner, second, same⟩ := read
    cases same
    have hc := Expr.ofTree_eq_ok first
    have hb := Stmt.ofTree_eq_ok second
    refine ⟨?_, ?_⟩
    · rw [Stmt.toTree, hc.1, hb.1, Tree.noValue_eq_ok plain, Tree.loop]
    · rw [Stmt.isValid, hc.2, hb.2, Bool.and_self]
  | .node .print value? [value] =>
    simp only [Stmt.ofTree, Except.bind_eq_ok] at read
    obtain ⟨_, plain, expr, first, same⟩ := read
    cases same
    have he := Expr.ofTree_eq_ok first
    refine ⟨?_, ?_⟩
    · rw [Stmt.toTree, he.1, Tree.noValue_eq_ok plain, Tree.print]
    · rw [Stmt.isValid, he.2]
  | .node .function value? (name :: part :: parts) =>
    simp only [Stmt.ofTree, Except.bind_eq_ok] at read
    obtain ⟨_, plain, found⟩ := read
    rw [if_neg (by simp), Except.bind_eq_ok] at found
    obtain ⟨text, first, found⟩ := found
    rw [Except.bind_eq_ok] at found
    obtain ⟨⟨params, body⟩, rest, same⟩ := found
    cases same
    have hn := Tree.childName_eq_ok first
    have hp := Stmt.ofParts_eq_ok rest
    refine ⟨?_, ?_⟩
    · rw [Stmt.toTree, Tree.function, hp.1, Tree.noValue_eq_ok plain, hn.1, Tree.ident]
    · rw [Stmt.isValid, hn.2, hp.2.1, hp.2.2, Bool.and_self, Bool.and_self]
  -- the wrong number of children
  | .node .assign _ [] | .node .assign _ [_] | .node .assign _ (_ :: _ :: _ :: _)
  | .node .ifElse _ [] | .node .ifElse _ [_] | .node .ifElse _ (_ :: _ :: _ :: _ :: _)
  | .node .loop _ [] | .node .loop _ [_] | .node .loop _ (_ :: _ :: _ :: _)
  | .node .print _ [] | .node .print _ (_ :: _ :: _)
  | .node .function _ [] | .node .function _ [_] =>
    simp [Stmt.ofTree, Except.bind_eq_ok] at read
  -- not a statement
  | .node .program _ _ | .node .param _ _ | .node .binary _ _ | .node .num _ _
  | .node .ident _ _ | .node .call _ _ => simp [Stmt.ofTree] at read

theorem Stmt.ofParts_eq_ok {index : Nat} {parts : List Tree} {params : List String}
    {body : Stmt} (read : Stmt.ofParts index parts = .ok (params, body)) :
    params.map Tree.param ++ [body.toTree] = parts ∧ params.all Token.isName ∧ body.isValid := by
  match parts with
  | [] => simp [Stmt.ofParts] at read
  | [part] =>
    simp only [Stmt.ofParts, Except.bind_eq_ok] at read
    obtain ⟨found, last, same⟩ := read
    cases same
    have hb := Stmt.ofTree_eq_ok last
    exact ⟨by rw [hb.1, List.map_nil, List.nil_append], rfl, hb.2⟩
  | part :: next :: parts =>
    simp only [Stmt.ofParts, Except.bind_eq_ok] at read
    obtain ⟨name, first, ⟨others, found⟩, rest, same⟩ := read
    cases same
    have hn := Tree.childName_eq_ok first
    have hp := Stmt.ofParts_eq_ok rest
    refine ⟨?_, ?_, hp.2.2⟩
    · rw [List.map_cons, List.cons_append, hp.1, Tree.param, ← hn.1]
    · rw [List.all_cons, hn.2, hp.2.1, Bool.and_self]

end

theorem Program.ofStatements_eq_ok {index : Nat} {trees : List Tree} {stmts : List Stmt}
    (read : Program.ofStatements index trees = .ok stmts) :
    stmts.map Stmt.toTree = trees ∧ stmts.all Stmt.isValid := by
  induction trees generalizing index stmts with
  | nil =>
    cases read
    exact ⟨rfl, rfl⟩
  | cons tree trees ih =>
    simp only [Program.ofStatements, Except.bind_eq_ok] at read
    obtain ⟨stmt, first, others, rest, same⟩ := read
    cases same
    have hs := Stmt.ofTree_eq_ok first
    have ho := ih rest
    exact ⟨by rw [List.map_cons, hs.1, ho.1], by rw [List.all_cons, hs.2, ho.2, Bool.and_self]⟩

theorem Program.ofTree_eq_ok {tree : Tree} {program : Program}
    (read : Program.ofTree tree = .ok program) :
    program.toTree = tree ∧ program.isValid := by
  rw [Program.ofTree] at read
  by_cases root : tree.kind = .program
  · rw [if_pos root, Except.bind_eq_ok] at read
    obtain ⟨_, plain, read⟩ := read
    rw [Except.bind_eq_ok] at read
    obtain ⟨stmts, rest, same⟩ := read
    cases same
    have hs := Program.ofStatements_eq_ok rest
    refine ⟨?_, hs.2⟩
    obtain ⟨kind, value?, children⟩ := tree
    cases root
    cases Tree.noValue_eq_ok plain
    rw [Program.toTree, hs.1, Tree.program, Tree.children]
  · rw [if_neg root] at read
    cases read

namespace Tree

def selectList (wanted : Kind → Bool) (trees : List Tree) : List Tree :=
  (preorderList trees).filter fun node => wanted node.kind

def select (wanted : Kind → Bool) (tree : Tree) : List Tree :=
  tree.preorder.filter fun node => wanted node.kind

variable {wanted : Kind → Bool}

@[simp] theorem selectList_nil : selectList wanted [] = [] := rfl

@[simp] theorem selectList_cons (tree : Tree) (trees : List Tree) :
    selectList wanted (tree :: trees) = tree.select wanted ++ selectList wanted trees := by
  rw [selectList, preorderList, List.filter_append]
  rfl

@[simp] theorem selectList_append (first second : List Tree) :
    selectList wanted (first ++ second) = selectList wanted first ++ selectList wanted second := by
  induction first with
  | nil => rfl
  | cons tree trees ih =>
    rw [List.cons_append, selectList_cons, ih, selectList_cons, List.append_assoc]

theorem select_node (kind : Kind) (value? : Option Value) (children : List Tree) :
    select wanted (node kind value? children) =
      (if wanted kind then [node kind value? children] else []) ++ selectList wanted children := by
  rw [select, preorder, List.filter_cons]
  change (if wanted kind then _ else _) = _
  cases wanted kind <;> rfl

theorem select_unwanted {kind : Kind} {value? : Option Value} {children : List Tree}
    (unwanted : wanted kind = false) :
    select wanted (node kind value? children) = selectList wanted children := by
  rw [select_node, unwanted]
  rfl

end Tree

end ImpToC
