import ImpToC.Proofs.Reading

/-! The grammar of programs, and the trees it gives them. A derivation says that a list of
tokens begins with a phrase, which tree the phrase has, and what is left behind it. Sums
and products are grouped to the left by being left-recursive, and a product is a part of a
sum but not the other way round. A comparison stands only at the root of a condition. The
one rule that looks at what follows is that of an `if` without `else`: it is not followed
by an `else`, which therefore belongs to the nearest `if` that has none yet. -/
namespace ImpToC

/-- The sorts of phrases. Lists are nonempty where their name does not say otherwise. -/
inductive Phrase where
  | program | statements | statement | parameters | parameterList | condition
  | expr | term | factor | arguments | argumentList
  deriving DecidableEq, Repr

abbrev Phrase.Nodes : Phrase → Type
  | statements | parameters | parameterList | arguments | argumentList => List Tree
  | program | statement | condition | expr | term | factor => Tree

open Token (Leads)

inductive Derives : (phrase : Phrase) → List Token → phrase.Nodes → List Token → Prop where
  | program {tokens : List Token} {nodes : List Tree} (body : Derives .statements tokens nodes []) :
    Derives .program tokens (.program nodes) []
  | statementsNil {rest : List Token} : Derives .statements rest [] rest
  | statementsCons {tokens middle rest : List Token} {node : Tree} {nodes : List Tree}
    (first : Derives .statement tokens node middle)
    (others : Derives .statements middle nodes rest) :
    Derives .statements tokens (node :: nodes) rest
  | assign {name mark semi : Token} {tokens rest : List Token} {value : Tree}
    (isName : name.kind = .ident) (isMark : mark.kind = .assign)
    (expr : Derives .expr tokens value (semi :: rest)) (isSemi : semi.kind = .semi) :
    Derives .statement (name :: mark :: tokens) (.assign name.text value) rest
  | ifThen {word opening closing : Token} {tokens middle rest : List Token} {cond body : Tree}
    (isWord : word.kind = .ifWord) (isOpening : opening.kind = .lparen)
    (test : Derives .condition tokens cond (closing :: middle))
    (isClosing : closing.kind = .rparen) (inner : Derives .statement middle body rest)
    (noElse : ¬Leads .elseWord rest) :
    Derives .statement (word :: opening :: tokens) (.ifThen cond body) rest
  | ifElse {word opening closing otherwise : Token} {tokens middle last rest : List Token}
    {cond body other : Tree} (isWord : word.kind = .ifWord) (isOpening : opening.kind = .lparen)
    (test : Derives .condition tokens cond (closing :: middle))
    (isClosing : closing.kind = .rparen)
    (inner : Derives .statement middle body (otherwise :: last))
    (isElse : otherwise.kind = .elseWord) (alternative : Derives .statement last other rest) :
    Derives .statement (word :: opening :: tokens) (.ifElse cond body other) rest
  | loop {word opening closing : Token} {tokens middle rest : List Token} {cond body : Tree}
    (isWord : word.kind = .whileWord) (isOpening : opening.kind = .lparen)
    (test : Derives .condition tokens cond (closing :: middle))
    (isClosing : closing.kind = .rparen) (inner : Derives .statement middle body rest) :
    Derives .statement (word :: opening :: tokens) (.loop cond body) rest
  | print {word opening closing semi : Token} {tokens rest : List Token} {value : Tree}
    (isWord : word.kind = .printWord) (isOpening : opening.kind = .lparen)
    (expr : Derives .expr tokens value (closing :: semi :: rest))
    (isClosing : closing.kind = .rparen) (isSemi : semi.kind = .semi) :
    Derives .statement (word :: opening :: tokens) (.print value) rest
  | function {word name opening : Token} {tokens middle rest : List Token} {params : List Tree}
    {body : Tree} (isWord : word.kind = .functionWord) (isName : name.kind = .ident)
    (isOpening : opening.kind = .lparen) (parameters : Derives .parameters tokens params middle)
    (inner : Derives .statement middle body rest) :
    Derives .statement (word :: name :: opening :: tokens)
      (.node .function none (.ident name.text :: (params ++ [body]))) rest
  | parametersNone {closing : Token} {rest : List Token} (isClosing : closing.kind = .rparen) :
    Derives .parameters (closing :: rest) [] rest
  | parametersSome {tokens rest : List Token} {params : List Tree}
    (list : Derives .parameterList tokens params rest) : Derives .parameters tokens params rest
  | parameterLast {name closing : Token} {rest : List Token} (isName : name.kind = .ident)
    (isClosing : closing.kind = .rparen) :
    Derives .parameterList (name :: closing :: rest) [.param name.text] rest
  | parameterMore {name comma : Token} {tokens rest : List Token} {params : List Tree}
    (isName : name.kind = .ident) (isComma : comma.kind = .comma)
    (others : Derives .parameterList tokens params rest) :
    Derives .parameterList (name :: comma :: tokens) (.param name.text :: params) rest
  | conditionExpr {tokens rest : List Token} {value : Tree}
      (expr : Derives .expr tokens value rest) :
    Derives .condition tokens value rest
  | compare {op : Token} {rel : RelOp} {tokens middle rest : List Token} {left right : Tree}
    (first : Derives .expr tokens left (op :: middle)) (isOp : op.kind = .rel rel)
    (second : Derives .expr middle right rest) :
    Derives .condition tokens (.binary op.kind left right) rest
  | exprTerm {tokens rest : List Token} {value : Tree} (term : Derives .term tokens value rest) :
    Derives .expr tokens value rest
  | exprFold {op : Token} {tokens middle rest : List Token} {left right : Tree}
    (first : Derives .expr tokens left (op :: middle))
    (isOp : op.kind = .arith .add ∨ op.kind = .arith .sub)
    (second : Derives .term middle right rest) :
    Derives .expr tokens (.binary op.kind left right) rest
  | termFactor {tokens rest : List Token} {value : Tree}
      (factor : Derives .factor tokens value rest) :
    Derives .term tokens value rest
  | termFold {op : Token} {tokens middle rest : List Token} {left right : Tree}
    (first : Derives .term tokens left (op :: middle))
    (isOp : op.kind = .arith .mul ∨ op.kind = .arith .div)
    (second : Derives .factor middle right rest) :
    Derives .term tokens (.binary op.kind left right) rest
  | num {token : Token} {rest : List Token} (isNum : token.kind = .num) :
    Derives .factor (token :: rest) (.num token.text) rest
  | var {token : Token} {rest : List Token} (isName : token.kind = .ident) :
    Derives .factor (token :: rest) (.ident token.text) rest
  | call {name opening : Token} {tokens rest : List Token} {args : List Tree}
    (isName : name.kind = .ident) (isOpening : opening.kind = .lparen)
    (arguments : Derives .arguments tokens args rest) :
    Derives .factor (name :: opening :: tokens) (.call name.text args) rest
  | group {opening closing : Token} {tokens rest : List Token} {value : Tree}
    (isOpening : opening.kind = .lparen) (expr : Derives .expr tokens value (closing :: rest))
    (isClosing : closing.kind = .rparen) : Derives .factor (opening :: tokens) value rest
  | argumentsNone {closing : Token} {rest : List Token} (isClosing : closing.kind = .rparen) :
    Derives .arguments (closing :: rest) [] rest
  | argumentsSome {tokens rest : List Token} {args : List Tree}
    (list : Derives .argumentList tokens args rest) : Derives .arguments tokens args rest
  | argumentLast {closing : Token} {tokens rest : List Token} {arg : Tree}
    (expr : Derives .expr tokens arg (closing :: rest)) (isClosing : closing.kind = .rparen) :
    Derives .argumentList tokens [arg] rest
  | argumentMore {comma : Token} {tokens middle rest : List Token} {arg : Tree} {args : List Tree}
    (expr : Derives .expr tokens arg (comma :: middle)) (isComma : comma.kind = .comma)
    (others : Derives .argumentList middle args rest) :
    Derives .argumentList tokens (arg :: args) rest

theorem Derives.length_le {phrase : Phrase} {tokens rest : List Token} {nodes : phrase.Nodes}
    (derives : Derives phrase tokens nodes rest) : rest.length ≤ tokens.length := by
  induction derives <;> (try simp only [List.length_cons] at *) <;> omega

def Phrase.isValue : Phrase → Bool
  | expr | term | factor | argumentList => true
  | _ => false

theorem Derives.not_leads_rparen {phrase : Phrase} {tokens rest : List Token}
    {nodes : phrase.Nodes} (derives : Derives phrase tokens nodes rest)
    (isValue : phrase.isValue) : ¬Leads .rparen tokens := by
  induction derives with
  | exprTerm term ih => exact ih rfl
  | exprFold first isOp second ih => exact ih rfl
  | termFactor factor ih => exact ih rfl
  | termFold first isOp second ih => exact ih rfl
  | argumentLast expr isClosing ih => exact ih rfl
  | argumentMore expr isComma others ih => exact ih rfl
  | num isKind => simp [Token.leads_cons, isKind]
  | var isKind => simp [Token.leads_cons, isKind]
  | call isKind => simp [Token.leads_cons, isKind]
  | group isKind => simp [Token.leads_cons, isKind]
  | _ => cases isValue

end ImpToC
