import ImpToC.Proofs.Shape

/-! Printed trees can be read in one way only. A value and the children after it are all set apart
by commas, and a node that has neither is printed without brackets; so a printed tree says what
was meant only if values have no comma or bracket in them, if a kind has one sort of value, and if
no node below the root is empty. A tree that encodes a program is of this sort.

The argument goes from left to right with an arbitrary rest: the text up to the next comma or
bracket is settled by where it ends, and so is what the mark after it begins. -/
namespace ImpToC

namespace Tree

def isPlain (c : Char) : Bool := c != '(' && c != ',' && c != ')'

theorem isPlain_of_isAlphanum {c : Char} (isPart : c.isAlphanum) : isPlain c := by
  simp only [isPlain, Bool.and_eq_true, bne_iff_ne]
  refine ⟨⟨?_, ?_⟩, ?_⟩ <;> rintro rfl <;> exact absurd isPart (by decide)

theorem plain_append_inj {first second rest more : List Char} (plain : first.all isPlain)
    (plain' : second.all isPlain) (stops : ∀ d ∈ rest.head?, ¬isPlain d)
    (stops' : ∀ d ∈ more.head?, ¬isPlain d) (same : first ++ rest = second ++ more) :
    first = second ∧ rest = more := by
  rw [List.all_eq_true] at plain plain'
  constructor
  · rw [← Token.takeWhile_run plain stops, same, Token.takeWhile_run plain' stops']
  · rw [← Token.dropWhile_run plain stops, same, Token.dropWhile_run plain' stops']

theorem Kind.plain_name (kind : Kind) : kind.name.toList.all isPlain := by
  cases kind <;> rfl

theorem Kind.ofName?_name (kind : Kind) : ofName? kind.name = some kind := by
  cases kind <;> rfl

theorem Kind.name_inj {a b : Kind} (same : a.name = b.name) : a = b := by
  rw [← Option.some_inj, ← ofName?_name a, same, ofName?_name b]

end Tree

namespace Token.Kind

theorem plain_name (kind : Kind) : kind.name.toList.all Tree.isPlain := by
  cases kind with
  | arith op => cases op <;> rfl
  | rel op => cases op <;> rfl
  | _ => rfl

theorem ofName?_name (kind : Kind) : ofName? kind.name = some kind := by
  cases kind with
  | arith op => cases op <;> rfl
  | rel op => cases op <;> rfl
  | _ => rfl

theorem name_inj {a b : Kind} (same : a.name = b.name) : a = b := by
  rw [← Option.some_inj, ← ofName?_name a, same, ofName?_name b]

end Token.Kind

namespace Tree

/-- What a node of this kind may carry: names and numerals that are plain text, or an operator. -/
inductive Suits : Kind → Value → Prop where
  | ident {text : String} (plain : text.toList.all isPlain) : Suits .ident (.name text)
  | param {text : String} (plain : text.toList.all isPlain) : Suits .param (.name text)
  | num {digits : String} (plain : digits.toList.all isPlain) : Suits .num (.number digits)
  | binary (op : Token.Kind) : Suits .binary (.operator op)

theorem Suits.plain {kind : Kind} {value : Value} (suits : Suits kind value) :
    value.render.toList.all isPlain := by
  cases suits with
  | ident plain => exact plain
  | param plain => exact plain
  | num plain => exact plain
  | binary op => exact op.plain_name

theorem Suits.render_inj {kind : Kind} {first second : Value} (suits : Suits kind first)
    (other : Suits kind second) (same : first.render = second.render) : first = second := by
  cases suits with
  | ident =>
    cases other
    exact congrArg Value.name same
  | param =>
    cases other
    exact congrArg Value.name same
  | num =>
    cases other
    exact congrArg Value.number same
  | binary op =>
    cases other
    exact congrArg Value.operator (Token.Kind.name_inj same)

inductive Legible : Tree → Prop where
  | valued {kind : Kind} {value : Value} {children : List Tree} (suits : Suits kind value)
    (below : ∀ child ∈ children, Legible child) : Legible (node kind (some value) children)
  | parent {kind : Kind} {first : Tree} {others : List Tree} (start : Legible first)
    (below : ∀ child ∈ others, Legible child) : Legible (node kind none (first :: others))

/-- The end of a printed node: the children that are left, each after a comma, and a bracket. -/
def ending (trees : List Tree) : List Char := (renderRest trees).toList ++ [')']

theorem ending_cons (tree : Tree) (trees : List Tree) :
    ending (tree :: trees) = ',' :: ' ' :: (tree.render.toList ++ ending trees) := by
  simp only [ending, renderRest, String.toList_append, List.append_assoc]
  rfl

theorem ending_stops (trees : List Tree) (rest : List Char) :
    ∀ d ∈ (ending trees ++ rest).head?, ¬isPlain d := by
  cases trees with
  | nil =>
    rintro d ⟨⟩
    decide
  | cons tree trees =>
    rw [ending_cons]
    rintro d ⟨⟩
    decide

theorem render_valued (kind : Kind) (value : Value) (children : List Tree) :
    (node kind (some value) children).render.toList =
      kind.name.toList ++ '(' :: (value.render.toList ++ ending children) := by
  simp only [render, ending, String.toList_append, List.append_assoc]
  rfl

theorem render_parent (kind : Kind) (first : Tree) (others : List Tree) :
    (node kind none (first :: others)).render.toList =
      kind.name.toList ++ '(' :: (first.render.toList ++ ending others) := by
  simp only [render, ending, String.toList_append, List.append_assoc]
  rfl

theorem Legible.exists_render {tree : Tree} (legible : tree.Legible) :
    ∃ inside, tree.render.toList = tree.kind.name.toList ++ '(' :: inside := by
  cases legible with
  | valued => exact ⟨_, render_valued _ _ _⟩
  | parent => exact ⟨_, render_parent _ _ _⟩

theorem Legible.render_ne_name {tree : Tree} (legible : tree.Legible) (kind : Kind) :
    tree.render ≠ kind.name := by
  intro same
  obtain ⟨inside, printed⟩ := legible.exists_render
  have bracket : '(' ∈ kind.name.toList := by
    rw [← same, printed]
    exact List.mem_append_right _ List.mem_cons_self
  exact absurd (List.all_eq_true.1 kind.plain_name '(' bracket) (by decide)

theorem ending_ne_open (trees : List Tree) (rest more : List Char) :
    ending trees ++ rest ≠ '(' :: more := by
  intro same
  cases trees with
  | nil => exact absurd (List.cons.inj same).1 (by decide)
  | cons tree trees =>
    rw [ending_cons] at same
    exact absurd (List.cons.inj same).1 (by decide)

def Told (tree : Tree) : Prop :=
  ∀ other : Tree, other.Legible → ∀ rest more,
    tree.render.toList ++ rest = other.render.toList ++ more → tree = other ∧ rest = more

theorem ending_append_inj {trees others : List Tree} {rest more : List Char}
    (told : ∀ tree ∈ trees, tree.Told) (legible : ∀ tree ∈ others, tree.Legible)
    (same : ending trees ++ rest = ending others ++ more) : trees = others ∧ rest = more := by
  induction trees generalizing others with
  | nil =>
    cases others with
    | nil => exact ⟨rfl, (List.cons.inj same).2⟩
    | cons other others =>
      rw [ending_cons] at same
      exact absurd (List.cons.inj same).1 (by decide)
  | cons tree trees ih =>
    cases others with
    | nil =>
      rw [ending_cons] at same
      exact absurd (List.cons.inj same).1 (by decide)
    | cons other others =>
      obtain ⟨isTold, areTold⟩ := List.forall_mem_cons.1 told
      obtain ⟨isLegible, areLegible⟩ := List.forall_mem_cons.1 legible
      rw [ending_cons, ending_cons] at same
      simp only [List.cons_append, List.cons.injEq, true_and, List.append_assoc] at same
      obtain ⟨rfl, left⟩ := isTold other isLegible _ _ same
      obtain ⟨rfl, rfl⟩ := ih areTold areLegible left
      exact ⟨rfl, rfl⟩

theorem kind_append_inj {a b : Kind} {rest more : List Char}
    (same : a.name.toList ++ '(' :: rest = b.name.toList ++ '(' :: more) : a = b ∧ rest = more := by
  have stops (text : List Char) : ∀ d ∈ ('(' :: text).head?, ¬isPlain d := by
    rintro d ⟨⟩
    decide
  obtain ⟨names, left⟩ := plain_append_inj a.plain_name b.plain_name (stops rest) (stops more) same
  exact ⟨Kind.name_inj (String.toList_inj.1 names), (List.cons.inj left).2⟩

/-- Where one tree goes on with a value and another with a child, their prints differ: after the
value there is a comma or the end, and after the kind of the child there is a bracket. -/
theorem valued_ne_parent {kind : Kind} {value : Value} {first : Tree} {children others : List Tree}
    {rest more : List Char} (suits : Suits kind value) (legible : first.Legible) :
    value.render.toList ++ (ending children ++ rest) ≠
      first.render.toList ++ (ending others ++ more) := by
  intro same
  obtain ⟨inside, printed⟩ := legible.exists_render
  rw [printed, List.append_assoc] at same
  obtain ⟨-, left⟩ := plain_append_inj suits.plain first.kind.plain_name (ending_stops _ _)
    (by rintro d ⟨⟩; decide) same
  exact ending_ne_open _ _ _ left

theorem Legible.told {tree : Tree} (legible : tree.Legible) : tree.Told := by
  induction legible with
  | @valued kind value children suits below ih =>
    rintro other (⟨suitsOther, belowOther⟩ | ⟨start, belowOther⟩) rest more same
    · simp only [render_valued, List.append_assoc, List.cons_append] at same
      obtain ⟨rfl, inside⟩ := kind_append_inj same
      obtain ⟨texts, left⟩ := plain_append_inj suits.plain suitsOther.plain (ending_stops _ _)
        (ending_stops _ _) inside
      cases suits.render_inj suitsOther (String.toList_inj.1 texts)
      obtain ⟨rfl, rfl⟩ := ending_append_inj ih belowOther left
      exact ⟨rfl, rfl⟩
    · simp only [render_valued, render_parent, List.append_assoc, List.cons_append] at same
      exact absurd (kind_append_inj same).2 (valued_ne_parent suits start)
  | @parent kind first others start below ihFirst ih =>
    rintro other (⟨suitsOther, belowOther⟩ | ⟨startOther, belowOther⟩) rest more same
    · simp only [render_valued, render_parent, List.append_assoc, List.cons_append] at same
      exact absurd (kind_append_inj same).2.symm (valued_ne_parent suitsOther start)
    · simp only [render_parent, List.append_assoc, List.cons_append] at same
      obtain ⟨rfl, inside⟩ := kind_append_inj same
      obtain ⟨rfl, left⟩ := ihFirst _ startOther _ _ inside
      obtain ⟨rfl, rfl⟩ := ending_append_inj ih belowOther left
      exact ⟨rfl, rfl⟩

theorem legible_leaf {kind : Kind} {value : Value} (suits : Suits kind value) :
    (node kind (some value) []).Legible :=
  .valued suits (List.forall_mem_nil _)

theorem plain_of_isWord {word : List Char} (isWord : Token.IsWord word) : word.all isPlain := by
  obtain ⟨c, rest, rfl, isAlpha, parts⟩ := isWord
  rw [List.all_eq_true]
  refine List.forall_mem_cons.2 ⟨?_, fun d mem => isPlain_of_isAlphanum (parts d mem)⟩
  exact isPlain_of_isAlphanum (Token.isAlphanum_of_isAlpha isAlpha)

theorem plain_of_isDigits {digits : List Char} (isDigits : Token.IsDigits digits) :
    digits.all isPlain := by
  rw [List.all_eq_true]
  exact fun d mem => isPlain_of_isAlphanum (Token.isAlphanum_of_isDigit (isDigits.2 d mem))

theorem legible_ident {text : String} (isWord : Token.IsWord text.toList) :
    (ident text).Legible :=
  legible_leaf (.ident (plain_of_isWord isWord))

theorem legible_param {text : String} (isWord : Token.IsWord text.toList) :
    (param text).Legible :=
  legible_leaf (.param (plain_of_isWord isWord))

end Tree

open ImpToC.Tree (Legible legible_leaf legible_ident legible_param)

mutual

theorem Expr.legible_toTree {expr : Expr} (spelled : expr.WellSpelled) : expr.toTree.Legible := by
  match expr with
  | .num digits => exact legible_leaf (.num (Tree.plain_of_isDigits spelled.digits))
  | .var name => exact legible_ident spelled
  | .binary op left right =>
    obtain ⟨first, second⟩ := spelled
    refine .valued (.binary op.kind)
      (List.forall_mem_cons.2 ⟨Expr.legible_toTree first, List.forall_mem_singleton.2 ?_⟩)
    exact Expr.legible_toTree second
  | .call callee args =>
    obtain ⟨isWord, areSpelled⟩ := spelled
    exact .parent (legible_ident isWord) (Expr.legible_toTrees areSpelled)

theorem Expr.legible_toTrees {args : List Expr} (spelled : Expr.AllWellSpelled args) :
    ∀ tree ∈ Expr.toTrees args, tree.Legible := by
  match args with
  | [] => exact List.forall_mem_nil _
  | arg :: args =>
    obtain ⟨first, others⟩ := spelled
    exact List.forall_mem_cons.2 ⟨Expr.legible_toTree first, Expr.legible_toTrees others⟩

end

theorem Stmt.legible_toTree {stmt : Stmt} (spelled : stmt.WellSpelled) : stmt.toTree.Legible := by
  induction stmt with
  | assign target value =>
    exact .parent (legible_ident spelled.1)
      (List.forall_mem_singleton.2 (Expr.legible_toTree spelled.2))
  | print value => exact .parent (Expr.legible_toTree spelled) (List.forall_mem_nil _)
  | ifThen cond body ih =>
    exact .parent (Expr.legible_toTree spelled.1) (List.forall_mem_singleton.2 (ih spelled.2))
  | ifElse cond body other ihBody ihOther =>
    obtain ⟨condSpelled, bodySpelled, otherSpelled⟩ := spelled
    refine .parent (Expr.legible_toTree condSpelled)
      (List.forall_mem_cons.2 ⟨ihBody bodySpelled, List.forall_mem_singleton.2 ?_⟩)
    exact ihOther otherSpelled
  | loop cond body ih =>
    exact .parent (Expr.legible_toTree spelled.1) (List.forall_mem_singleton.2 (ih spelled.2))
  | function name params body ih =>
    obtain ⟨isWord, areWords, bodySpelled⟩ := spelled
    refine .parent (legible_ident isWord) (List.forall_mem_append.2 ⟨?_, ?_⟩)
    · exact List.forall_mem_map.2 fun param mem => legible_param (areWords param mem)
    · exact List.forall_mem_singleton.2 (ih bodySpelled)

theorem Program.empty_or_legible {program : Program} (spelled : program.WellSpelled) :
    program.toTree = .program [] ∨ program.toTree.Legible := by
  obtain ⟨_ | ⟨first, others⟩⟩ := program
  · exact .inl rfl
  · obtain ⟨firstSpelled, othersSpelled⟩ := List.forall_mem_cons.1 spelled
    exact .inr (.parent (Stmt.legible_toTree firstSpelled)
      (List.forall_mem_map.2 fun stmt mem => Stmt.legible_toTree (othersSpelled stmt mem)))

namespace Tree

/-- Trees that encode programs are printed alike only if they are the same. The one tree of them
that is printed without brackets is that of the program without statements. -/
theorem render_eq_iff_eq {a b : Tree} {program other : Program}
    (reads : Program.ofTree a = .ok program) (readsOther : Program.ofTree b = .ok other) :
    a.render = b.render ↔ a = b := by
  obtain ⟨spelled, rfl⟩ := Program.ofTree_eq_ok_iff.1 reads
  obtain ⟨otherSpelled, rfl⟩ := Program.ofTree_eq_ok_iff.1 readsOther
  refine ⟨fun same => ?_, fun same => same ▸ rfl⟩
  rcases Program.empty_or_legible spelled with empty | legible
  · rcases Program.empty_or_legible otherSpelled with otherEmpty | otherLegible
    · rw [empty, otherEmpty]
    · rw [empty] at same
      exact absurd same.symm (otherLegible.render_ne_name .program)
  · rcases Program.empty_or_legible otherSpelled with otherEmpty | otherLegible
    · rw [otherEmpty] at same
      exact absurd same (legible.render_ne_name .program)
    · exact (legible.told _ otherLegible [] [] (by rw [same])).1

/-- Where an argument list ends is seen from the brackets. -/
theorem render_eq_iff_eq_arguments :
    let first : Tree := program [print (call "f" [call "g" [num "1", num "2"]])]
    let second : Tree := program [print (call "f" [call "g" [num "1"], num "2"])]
    (∃ p, Program.ofTree first = .ok p) ∧ (∃ p, Program.ofTree second = .ok p) ∧
      first.render ≠ second.render := by
  intro first second
  have reads : Program.ofTree first = .ok
      ⟨[.print (.call "f" [.call "g" [.num "1", .num "2"]])]⟩ := rfl
  have readsOther : Program.ofTree second = .ok
      ⟨[.print (.call "f" [.call "g" [.num "1"], .num "2"])]⟩ := rfl
  refine ⟨⟨_, reads⟩, ⟨_, readsOther⟩, fun same => ?_⟩
  have equal := (render_eq_iff_eq reads readsOther).1 same
  exact absurd equal (by decide)

example :
    (node .print (some (.name "1")) []).render = (node .print (some (.number "1")) []).render := rfl

end Tree

end ImpToC
